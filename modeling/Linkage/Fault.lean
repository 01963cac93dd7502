import Linkage.Value

/-!
# What can go wrong

Every failure of the library is a cause, a constructor of `Linkage.Fault` that names
what was at fault. The wording is in one place, `Linkage.Fault.message?`, and so is the
coarse classification that callers branch on, `Linkage.Fault.kind`.

A cause may hold a number that a message shows as it was given, so causes are over a
kind of number `α`; the wording is for binary64 numbers.
-/

namespace Linkage

/-- **The classes of failures.** -/
inductive Fault.Kind where
  /-- A tree is inconsistent or incomplete, or is asked about what it does not hold. -/
  | integrity
  /-- A joint's type has no motion. -/
  | jointType
  /-- A required setting is absent. -/
  | missing
  /-- A setting is malformed or out of range. -/
  | invalid
  /-- A velocity goes beyond what the joint can do. -/
  | safety
  /-- A joint or a chain was never registered. -/
  | notFound
  /-- A text or a list does not have the form a number or a vector needs. -/
  | form
  /-- A value is of a kind that cannot be gone through or counted. -/
  | unsuitable
  /-- A mapping is asked for a key that it lacks. -/
  | noKey
  /-- An input vector is too short to be read. -/
  | outOfRange
  /-- An integer is too large for the numbers or words it has to become. -/
  | overflow
  /-- What is not there is asked for one of its parts. -/
  | absent
  /-- An expression has no value. -/
  | undefined
  /-- A text is not well-formed markup. -/
  | markup
  /-- A document holds a character that documents may not hold. -/
  | characters
  /-- A document cannot be cut into tokens. -/
  | tokens
  /-- The tokens of a document do not form a document. -/
  | grammar
  /-- The nodes of a document do not form one tree. -/
  | composition
  /-- A node of a document stands for no value. -/
  | construction
  deriving Repr, DecidableEq, Inhabited

/-- **The causes of failures.** -/
inductive Fault (α : Type) where
  | emptyJointName
  | jointTwice (joint : String)
  | secondParent (link : String)
  | rootCount (found : List String)
  | unreached (links : List String) (root : String)
  | unknownLink (link : String)
  | emptyReference
  | unknownJoint (joint : String)
  | noParentJoint (link : String)
  | noParentLink (link : String)
  | endless (link : String)
  | malformedMarkup
  | unnamedLink
  | unnamedJoint
  | noParentOf (joint : String)
  | noChildOf (joint : String)
  | malformedVector (joint text : String)
  | zeroAxis (joint : String)
  | notNumeric (text : String)
  | notWhole (base : Nat) (text : String)
  | notTruth (text : String)
  | notMoment
  | noMoment (part : Moment.Part)
  | notText (kind : String)
  | noCharacter
  | tooManyDigits (got : Option Nat)
  | tooFew (expected got : Nat)
  | tooMany (expected : Nat)
  | tooLarge
  | indexTooLarge (index : Int)
  | wordTooLarge
  | codeTooLarge
  | noOperands
  | emptyInput
  | noValue
  | unsupportedType (joint type : String)
  | unmodeledType (joint type : String)
  | unregistered (joint : String)
  | unknownChain (root tip : String)
  | noLimits (joint : String)
  | noWeight (joint : String)
  | negativeWeight (joint : String) (weight : Number α)
  | tooFast (joint : String) (requested physical : Number α)
  | malformedRequest (given : Value)
  | notMapping (given : Value)
  | noRootLink
  | malformedTip (given : Value)
  | malformedPair (given : Value)
  | malformedSection (name : String)
  | malformedEntry (key part : String) (given : Value)
  | notIterable (given : Value)
  | notCountable (given : Value)
  | notIndexable (given : Value)
  | noIndex (index : Nat)
  | badCharacter
  | badToken
  | badGrammar
  | badComposition
  | badConstruction
  deriving Inhabited

namespace Fault

variable {α : Type}

/-- **The class of a cause.** -/
def kind : Fault α → Kind
  | emptyJointName | jointTwice _ | secondParent _ | rootCount _ | unreached .. | unknownLink _
  | emptyReference | unknownJoint _ | noParentJoint _ | noParentLink _ | endless _
  | unnamedLink | unnamedJoint | noParentOf _ | noChildOf _ | malformedVector .. | zeroAxis _
  | noLimits _ => .integrity
  | unsupportedType .. | unmodeledType .. => .jointType
  | noWeight _ | noRootLink => .missing
  | negativeWeight .. | malformedRequest _ | notMapping _ | malformedTip _ | malformedPair _
  | malformedSection _ | malformedEntry .. => .invalid
  | tooFast .. => .safety
  | unregistered _ | unknownChain .. => .notFound
  | notNumeric _ | notWhole .. | noMoment _ | noCharacter | tooManyDigits _ | tooFew ..
  | tooMany _ | noOperands => .form
  | notIterable _ | notCountable _ | notIndexable _ | notText _ => .unsuitable
  | noIndex _ | notTruth _ => .noKey
  | emptyInput => .outOfRange
  | tooLarge | indexTooLarge _ | wordTooLarge | codeTooLarge => .overflow
  | notMoment => .absent
  | noValue => .undefined
  | malformedMarkup => .markup
  | badCharacter => .characters
  | badToken => .tokens
  | badGrammar => .grammar
  | badComposition => .composition
  | badConstruction => .construction

/-- A number in a message, as it was given. -/
def numberText : Number Float → String
  | .int n => toString n
  | .real x => Decimal.shown x

/-- What is wrong with a part of a moment. -/
def partText : Moment.Part → String
  | .year n => "year " ++ toString n ++ " is out of range"
  | .month => "month must be in 1..12"
  | .day => "day is out of range for month"
  | .hour => "hour must be in 0..23"
  | .minute => "minute must be in 0..59"
  | .second => "second must be in 0..59"
  | .offset seconds =>
    "offset must be a timedelta strictly between -timedelta(hours=24) and timedelta(hours=24), not "
      ++ durationText seconds ++ "."

/-- The wording for an integer with too many digits, whose number is known when it is
read. -/
def digitsText (got : Option Nat) : String :=
  "Exceeds the limit (" ++ toString Value.digitLimit ++ " digits) for integer string conversion"
    ++ (match got with
      | some n => ": value has " ++ toString n ++ " digits"
      | none => "")
    ++ "; use sys.set_int_max_str_digits() to increase the limit"

/-- **The wording of a cause**, where it has one. -/
def message? : Fault Float → Option String
  | emptyJointName => some "Encountered a joint with an empty name."
  | jointTwice j => some ("Joint with name '" ++ j ++ "' is defined twice.")
  | secondParent l => some ("Link with name '" ++ l ++ "' has more than one parent joint.")
  | rootCount ls => some ("Expected exactly one root link, found: " ++ Text.quotedList ls)
  | unreached ls r =>
    some ("Links " ++ Text.quotedList ls ++ " are not connected to root link '" ++ r ++ "'.")
  | unknownLink l => some ("Could not find link with name '" ++ l ++ "'.")
  | emptyReference => some "Given joint reference is empty."
  | unknownJoint j | unregistered j => some ("Could not find joint with name '" ++ j ++ "'.")
  | noParentJoint l => some ("Parent joint of link with name '" ++ l ++ "' is missing.")
  | noParentLink l => some ("Could not find parent link of link with name '" ++ l ++ "'.")
  | endless l => some ("Walk from link with name '" ++ l ++ "' does not end.")
  | unnamedLink => some "Encountered a link without a name."
  | unnamedJoint => some "Encountered a joint without a name."
  | noParentOf j => some ("Joint with name '" ++ j ++ "' has no parent link.")
  | noChildOf j => some ("Joint with name '" ++ j ++ "' has no child link.")
  | malformedVector j t =>
    some ("Joint with name '" ++ j ++ "' has malformed vector attribute '" ++ t ++ "'.")
  | zeroAxis j => some ("Joint with name '" ++ j ++ "' has a zero-length axis.")
  | notNumeric t => some ("could not convert string to float: " ++ Text.quoted t)
  | notWhole b t =>
    some ("invalid literal for int() with base " ++ toString b ++ ": "
      ++ String.ofList ((Text.quoted t).toList.take 200))
  | notTruth t => some (Text.quoted t)
  | notMoment => some "'NoneType' object has no attribute 'groupdict'"
  | noMoment p => some (partText p)
  | notText kind => some ("expected string or bytes-like object, got '" ++ kind ++ "'")
  | noCharacter => some "chr() arg not in range(0x110000)"
  | tooManyDigits got => some (digitsText got)
  | tooFew n m =>
    some ("not enough values to unpack (expected " ++ toString n ++ ", got " ++ toString m ++ ")")
  | tooMany n => some ("too many values to unpack (expected " ++ toString n ++ ")")
  | tooLarge => some "int too large to convert to float"
  | indexTooLarge i => some ("Python int " ++ toString i ++ " too large to convert to int64")
  | wordTooLarge => some "Python int too large to convert to C long"
  | codeTooLarge => some "Python int too large to convert to C int"
  | noOperands => some "DoubleSub requires at least one operand"
  | noValue => some ""
  | unsupportedType j t =>
    some ("Joint with name '" ++ j ++ "' has unsupported type '" ++ t ++ "'.")
  | unmodeledType j t => some ("Joint with name '" ++ j ++ "' has unmodeled type '" ++ t ++ "'.")
  | unknownChain r t =>
    some ("Could not find forward kinematics for chain ('" ++ r ++ "', '" ++ t ++ "').")
  | noLimits j => some ("Joint with name '" ++ j ++ "' has no limits.")
  | noWeight j => some ("Could not find weight for joint '" ++ j ++ "'.")
  | negativeWeight j w =>
    some ("Came up with a joint weight below zero for joint '" ++ j ++ "': " ++ numberText w)
  | tooFast j v p =>
    some ("Came up with velocity limit " ++ numberText v ++ " faster than physical limit "
      ++ numberText p ++ " for joint '" ++ j ++ "'.")
  | malformedRequest v =>
    some ("Chain must be a tip link name or a (root, tip) pair of link names, got " ++ v.shown
      ++ ".")
  | notMapping v => some ("Robot configuration must be a mapping, got " ++ v.kindName ++ ".")
  | noRootLink => some "Robot configuration has no 'root_link'."
  | malformedTip v => some ("Tip link must be a link name, got " ++ v.shown ++ ".")
  | malformedPair v =>
    some ("Chain must be a (root, tip) pair of link names, got " ++ v.shown ++ ".")
  | malformedSection s => some ("Section '" ++ s ++ "' must be a mapping.")
  | malformedEntry n s v =>
    some ("Value of '" ++ n ++ "' in section '" ++ s ++ "' must be a number, got " ++ v.shown
      ++ ".")
  | notIterable v => some ("'" ++ v.longKindName ++ "' object is not iterable")
  | notCountable v => some ("object of type '" ++ v.longKindName ++ "' has no len()")
  | notIndexable v => some ("'" ++ v.longKindName ++ "' object is not subscriptable")
  | noIndex i => some (toString i)
  | emptyInput | malformedMarkup | badCharacter | badToken | badGrammar | badComposition
  | badConstruction => none

end Fault

end Linkage
