import Linkage.Text.CodePage

/-!
# Encodings

A document says in its first line in which encoding its bytes are to be read. It was
handed over as text in the usual encoding; so what it says in another one is found by
writing the text as bytes and reading these again.

Of the encodings with more than one byte for a character only that part is read in which
they all agree, the characters of seven bits, less the signs by which some of them leave
that part.

## Main definitions

* `Linkage.Markup.Encoding`, `Linkage.Markup.Encoding.ofName?`.
* `Linkage.Markup.Encoding.decode?`: what a text says in an encoding.
-/

namespace Linkage.Markup

/-- **An encoding**: the usual one, that in which a byte is the character of its number, a
code page, or one of which the characters of seven bits are read, some of them apart. -/
inductive Encoding where
  | usual
  | numbers
  | page (upper : String)
  | sevenBits (apart : List Char)
  deriving Repr, DecidableEq, Inhabited

namespace Encoding

/-- The names of the usual encoding. -/
def usualNames : List String := ["UTF-8", "UTF8"]

/-- The names of the encoding in which a byte is the character of its number. -/
def numberNames : List String :=
  ["ISO-8859-1", "ISO_8859-1", "ISO8859-1", "ISO-LATIN-1", "LATIN1", "L1", "CP819", "IBM819",
    "ISO-IR-100", "CSISOLATIN1"]

/-- The names of the encodings of which the characters of seven bits are read. -/
def sevenBitNames : List String :=
  ["US-ASCII", "ASCII", "ISO646-US", "ISO-IR-6", "CP367", "IBM367", "US", "CSASCII",
    "ANSI_X3.4-1968", "ANSI_X3.4-1986", "ISO-2022-JP", "CSISO2022JP", "ISO-2022-JP-1",
    "ISO-2022-JP-2", "CSISO2022JP2", "ISO-2022-KR", "CSISO2022KR", "ISO-2022-CN",
    "CSISO2022CN", "ISO-2022-CN-EXT", "SHIFT_JIS", "SHIFT-JIS", "SJIS", "MS_KANJI",
    "CSSHIFTJIS", "CP932", "EUC-JP", "EUCJP", "CSEUCPKDFMTJAPANESE", "GB2312", "EUC-CN",
    "EUCCN", "CN-GB", "CSGB2312", "GBK", "CP936", "MS936", "WINDOWS-936", "GB18030", "BIG5",
    "BIG-5", "BIG-FIVE", "BIGFIVE", "CN-BIG5", "CSBIG5", "CP950", "BIG5-HKSCS", "BIG5HKSCS",
    "EUC-TW", "EUCTW", "CSEUCTW", "EUC-KR", "EUCKR", "CSEUCKR", "CP949", "UHC", "JOHAB",
    "CP1361", "VISCII", "TCVN", "TCVN5712-1", "KOI8-RU", "CP1131", "CP1133", "IBM-CP1133",
    "MACHEBREW", "MACARABIC", "MACTHAI", "MACUKRAINE", "NEXTSTEP", "ARMSCII-8",
    "GEORGIAN-ACADEMY", "GEORGIAN-PS", "MULELAO-1"]

/-- The names of the encodings in which some characters of seven bits begin others. -/
def shiftingNames : List (String × List Char) :=
  [("UTF-7", ['+', '~', '\\']), ("UNICODE-1-1-UTF-7", ['+', '~', '\\']),
    ("CSUNICODE11UTF7", ['+', '~', '\\']), ("HZ", ['~']), ("HZ-GB-2312", ['~']),
    ("C99", ['\\']), ("JAVA", ['\\'])]

/-- **The encoding of a name**, large and small letters being the same. -/
def ofName? (name : String) : Option Encoding :=
  let name := name.toUpper
  if usualNames.contains name then some usual
  else if numberNames.contains name then some numbers
  else if sevenBitNames.contains name then some (sevenBits [])
  else
    match shiftingNames.lookup name with
    | some apart => some (sevenBits apart)
    | none => (Text.codePage? name).map page

/-- Whether a text can be the name of an encoding. -/
def isName (cs : List Char) : Bool :=
  cs.head?.any Char.isAlpha && cs.all fun c => c.isAlphanum || c == '.' || c == '_' || c == '-'

/-- The numbers of the bytes of a character. -/
def byteNumbers (c : Char) : List Nat := (String.utf8EncodeChar c).map UInt8.toNat

/-- **What a text says in an encoding**, if it says anything. -/
def decode? (e : Encoding) (cs : List Char) : Option (List Char) :=
  match e with
  | usual => some cs
  | numbers => some ((cs.flatMap byteNumbers).map Char.ofNat)
  | page upper =>
    let upper := upper.toList.toArray
    (cs.flatMap byteNumbers).mapM (Text.pageChar? upper)
  | sevenBits apart =>
    if cs.all fun c => c.toNat < 128 && !apart.contains c then some cs else none

/-- In the usual encoding a text says what it is. -/
@[simp]
theorem decode?_usual (cs : List Char) : usual.decode? cs = some cs := rfl

end Encoding

end Linkage.Markup
