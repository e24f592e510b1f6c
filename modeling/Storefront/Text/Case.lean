import Storefront.Text.Case.Letters

namespace Storefront.Text.Case

def isLower (c : Char) : Bool :=
  if c.toNat < 0x80 then 'a' ≤ c && c ≤ 'z' else lowercase.covers c

def isUpper (c : Char) : Bool :=
  if c.toNat < 0x80 then 'A' ≤ c && c ≤ 'Z' else uppercase.covers c

/-- The digraphs and Greek letters in title case, which are neither upper nor lower case. -/
def isTitle (c : Char) : Bool :=
  let n := c.toNat
  n == 0x1C5 || n == 0x1C8 || n == 0x1CB || n == 0x1F2 || (0x1F88 ≤ n && n ≤ 0x1F8F) ||
    (0x1F98 ≤ n && n ≤ 0x1F9F) || (0x1FA8 ≤ n && n ≤ 0x1FAF) || n == 0x1FBC || n == 0x1FCC ||
    n == 0x1FFC

def isCased (c : Char) : Bool := isLower c || isUpper c || isTitle c

def lowerForm (c : Char) : List Char :=
  if c.toNat < 0x80 then [c.toLower] else (lowerForms.image? c).getD [c]

/-- Whether the next character that is not ignorable has a case. -/
def meetsCased (s : List Char) : Bool :=
  match s.dropWhile ignorable.covers with
  | [] => false
  | c :: _ => isCased c

/-- `before` is the text in front, last character first.  The lower-case form of a text depends on context in one
place: a capital sigma at the end of a word. -/
def lowerAfter (before : List Char) : List Char → List Char
  | [] => []
  | c :: r =>
    let form :=
      if c = 'Σ' then [if meetsCased before && !meetsCased r then 'ς' else 'σ'] else lowerForm c
    form ++ lowerAfter (c :: before) r

def lower (s : List Char) : List Char := lowerAfter [] s

/-- Lower case for the letters A to Z alone. -/
def lowerAscii (s : List Char) : List Char := s.map Char.toLower

end Storefront.Text.Case
