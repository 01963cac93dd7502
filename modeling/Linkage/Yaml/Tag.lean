import Linkage.Yaml.Number
import Linkage.Yaml.Stamp

/-!
# What a node stands for

The tag of a node says what it stands for: a truth value, a number, a text, a list, and
so on. It is written in front of the node, or else it follows from the node: a plain text
that has the form of a number stands for that number, and a text in quotes always for
itself.

## Main definitions

* `Linkage.Yaml.Tag`: the tags, those that mean nothing to this library being one.
* `Linkage.Yaml.Tag.ofName`: the tag that a name stands for.
* `Linkage.Yaml.Tag.ofPlain`: the tag of a plain text.
-/

namespace Linkage.Yaml

/-- **A tag.** `ordered` and `pairs` are lists of single entries. `merge` marks the key
under which a mapping takes over entries of others, and `content` the key whose value
stands for the mapping around it. -/
inductive Tag where
  | null
  | truth
  | whole
  | real
  | stamp
  | bytes
  | text
  | list
  | mapping
  | set
  | ordered
  | pairs
  | merge
  | content
  | other
  deriving Repr, DecidableEq, Inhabited

namespace Tag

/-- Whether a node with the tag stands for a collection. -/
def isCollection : Tag → Bool
  | .list | .mapping | .set | .ordered | .pairs => true
  | _ => false

/-- What the names of the tags begin with. -/
def standard : String := "tag:yaml.org,2002:"

/-- The names of the tags. -/
def names : List (String × Tag) :=
  [("null", .null), ("bool", .truth), ("int", .whole), ("float", .real), ("timestamp", .stamp),
    ("binary", .bytes), ("str", .text), ("seq", .list), ("map", .mapping), ("set", .set),
    ("omap", .ordered), ("pairs", .pairs), ("merge", .merge), ("value", .content)]

/-- **The tag that a name stands for.** -/
def ofName (name : String) : Tag :=
  ((names.find? fun (n, _) => standard ++ n == name).map Prod.snd).getD .other

/-- The words for the two truth values. -/
def truths : List (String × Bool) :=
  [("yes", true), ("no", false), ("true", true), ("false", false), ("on", true), ("off", false)]

/-- The three ways to write a word: in small letters, with a capital in front, in
capitals. -/
def spellings (word : String) : List String :=
  match word.toList with
  | [] => [""]
  | c :: cs => [word, String.ofList (c.toUpper :: cs), String.ofList ((c :: cs).map Char.toUpper)]

/-- Whether a text is a word for a truth value. -/
def isTruth (text : String) : Bool := truths.any fun (w, _) => (spellings w).contains text

/-- Whether a text is a word for nothing. -/
def isNull (text : String) : Bool := text.isEmpty || text == "~" || (spellings "null").contains text

/-- A text less the line end after it, if it holds more than that. -/
def chomped (cs : List Char) : List Char :=
  if 1 < cs.length && cs.getLast? == some '\n' then cs.dropLast else cs

/-- **The tag of a plain text**, which a line end may follow. -/
def ofPlain (cs : List Char) : Tag :=
  let cs := chomped cs
  let text := String.ofList cs
  if isNull text then .null
  else if isTruth text then .truth
  else if isWhole cs then .whole
  else if isReal cs then .real
  else if isStamp cs then .stamp
  else
    match text with
    | "<<" => .merge
    | "=" => .content
    | "!" | "&" | "*" => .other
    | _ => .text

end Tag

end Linkage.Yaml
