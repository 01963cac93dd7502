/-!
# Addresses

A namespace is named by an address: a scheme with what it says, or what an address has
without one. Both may go on with a query and with a fragment. A character that may not
stand for itself is written as a percent sign and two hexadecimal digits.

An address is read from front to back by functions that drop what they know and leave
the rest; one that can fail gives nothing.

## Main definitions

* `Linkage.Markup.dropSpan`: drops characters of a kind, and written ones.
* `Linkage.Markup.afterAuthority?`: drops the server of an address.
* `Linkage.Markup.isAbsolute`, `Linkage.Markup.isRelative`: the two forms.
-/

namespace Linkage.Markup

/-! ### Characters -/

/-- The value of a hexadecimal digit. -/
def hexDigit? (c : Char) : Option Nat :=
  if c.isDigit then some (c.toNat - 48)
  else if 'a' ≤ c && c ≤ 'f' then some (c.toNat - 87)
  else if 'A' ≤ c && c ≤ 'F' then some (c.toNat - 55)
  else none

/-- Whether a character is a hexadecimal digit. -/
def isHexDigit (c : Char) : Bool := (hexDigit? c).isSome

/-- The characters of the name of a server. -/
def isHostChar (c : Char) : Bool := c.isAlphanum || "-._~!$&\x27()*+,;=".contains c

/-- The characters in front of the sign that ends the name of a user. -/
def isUserChar (c : Char) : Bool := isHostChar c || c == ':'

/-- The characters of a step of a path. -/
def isStepChar (c : Char) : Bool := isUserChar c || c == '@'

/-- The characters of a path. -/
def isPathChar (c : Char) : Bool := isStepChar c || c == '/'

/-- The characters of a query. -/
def isQueryChar (c : Char) : Bool := isPathChar c || c == '?'

/-- The characters of a fragment. -/
def isFragmentChar (c : Char) : Bool := isQueryChar c || c == '[' || c == ']'

/-! ### Parts -/

/-- **Drops characters of a kind**, and all that are written with a percent sign. -/
def dropSpan (p : Char → Bool) : List Char → List Char
  | [] => []
  | '%' :: a :: b :: cs =>
    if isHexDigit a && isHexDigit b then dropSpan p cs else '%' :: a :: b :: cs
  | c :: cs => if p c then dropSpan p cs else c :: cs

/-- Nothing is dropped of a text that begins with a character of another kind. -/
theorem dropSpan_cons_of_not {p : Char → Bool} {c : Char} {cs : List Char} (hc : c ≠ '%')
    (h : p c = false) : dropSpan p (c :: cs) = c :: cs := by
  unfold dropSpan
  split
  · simp_all
  · simp_all
  · rename_i heq
    obtain ⟨rfl, rfl⟩ := List.cons.inj heq
    simp [h]

/-- Drops one of the four parts of a numbered server. A part has up to three digits, no
zero in front, and is below 260. -/
def afterNumber? (cs : List Char) : Option (List Char) :=
  match cs.takeWhile Char.isDigit with
  | [] => none
  | [_] => some (cs.drop 1)
  | [a, _] => if a != '0' then some (cs.drop 2) else none
  | a :: b :: _ =>
    if a == '1' || (a == '2' && b ≤ '5') then some (cs.drop 3) else none

/-- Drops a point. -/
def afterPoint? : List Char → Option (List Char)
  | '.' :: cs => some cs
  | _ => none

/-- Drops a server that is given by four numbers. -/
def afterNumbers? (cs : List Char) : Option (List Char) := do
  let cs ← afterPoint? (← afterNumber? cs)
  let cs ← afterPoint? (← afterNumber? cs)
  let cs ← afterPoint? (← afterNumber? cs)
  afterNumber? cs

/-- Drops the name of a server, which may be missing. One in brackets must be closed. -/
def afterHost? (cs : List Char) : Option (List Char) :=
  match cs with
  | '[' :: inside =>
    match inside.dropWhile (· != ']') with
    | _ :: cs => some cs
    | [] => none
  | _ => some ((afterNumbers? cs).getD (dropSpan isHostChar cs))

/-- The largest number that a service of a server can have. -/
def maxService : Nat := 2147483647

/-- Drops the number of a service after its colon. -/
def afterService? : List Char → Option (List Char)
  | ':' :: cs =>
    let digits := cs.takeWhile Char.isDigit
    let number := digits.foldl (fun n d => 10 * n + (d.toNat - 48)) 0
    if digits.isEmpty || maxService < number then none else some (cs.drop digits.length)
  | cs => some cs

/-- **Drops a server**: a user and its sign, if there is one, a name, and the
number of a service. -/
def afterAuthority? (cs : List Char) : Option (List Char) := do
  let cs := match dropSpan isUserChar cs with
    | '@' :: cs => cs
    | _ => cs
  afterService? (← afterHost? cs)

/-- Drops a query and a fragment, each if it is there. -/
def afterTail (cs : List Char) : List Char :=
  let cs := match cs with
    | '?' :: cs => dropSpan isQueryChar cs
    | _ => cs
  match cs with
  | '#' :: cs => dropSpan isFragmentChar cs
  | _ => cs

/-- Drops a server, if there is one, and the path from its first sign. -/
def afterPath? : List Char → Option (List Char)
  | '/' :: '/' :: cs => do
    match ← afterAuthority? cs with
    | '/' :: cs => return dropSpan isPathChar cs
    | cs => return cs
  | cs => some (dropSpan isPathChar cs)

/-! ### The two forms -/

/-- The characters of a scheme. -/
def isSchemeChar (c : Char) : Bool := c.isAlphanum || c == '+' || c == '-' || c == '.'

/-- **An address with a scheme**, which begins with a letter and ends with a colon. -/
def isAbsolute (cs : List Char) : Bool :=
  (cs.head?.any Char.isAlpha) &&
    match cs.dropWhile isSchemeChar with
    | ':' :: cs => (afterPath? cs).any fun cs => (afterTail cs).isEmpty
    | _ => false

/-- **An address without a scheme.** The first step of its path has no colon. -/
def isRelative (cs : List Char) : Bool :=
  match cs with
  | '/' :: _ => (afterPath? cs).any fun cs => (afterTail cs).isEmpty
  | _ =>
    match dropSpan (fun c => isStepChar c && c != ':') cs with
    | '/' :: cs => (afterTail (dropSpan isPathChar cs)).isEmpty
    | cs => (afterTail cs).isEmpty

/-- Whether a text is an address of either form. -/
def isAddress (cs : List Char) : Bool := isAbsolute cs || isRelative cs

end Linkage.Markup
