import Storefront.Bytes
import Storefront.Text.Split

namespace Storefront.Http

def isSchemeLetter (c : Char) : Bool :=
  ('a' ≤ c && c ≤ 'z') || ('A' ≤ c && c ≤ 'Z') || ('0' ≤ c && c ≤ '9') || c == '+' || c == '-' || c == '.'

/-- A target without the scheme and the host that may stand in front of its path. -/
def withoutHost (target : List Char) : List Char :=
  match target.dropWhile isSchemeLetter with
  | ':' :: '/' :: '/' :: r => r.dropWhile fun c => c != '/' && c != '?' && c != '#'
  | _ => target

/-- The segments of the path in a request target, whose query is left out.  The first one is what stands before the
first slash.  Paths are compared as they were sent; only a segment that is a parameter is decoded. -/
def segments (target : String) : List String :=
  let path := (withoutHost target.toList).takeWhile fun c => c != '?' && c != '#'
  (Text.parts '/' path).map String.ofList

/-- Replaces a percent sign and two hexadecimal digits by the byte they stand for. -/
def percentDecode : Bytes → Bytes
  | 0x25 :: a :: b :: r =>
    match Bytes.hexValue? (Char.ofNat a.toNat), Bytes.hexValue? (Char.ofNat b.toNat) with
    | some x, some y => (16 * x + y).toUInt8 :: percentDecode r
    | _, _ => 0x25 :: percentDecode (a :: b :: r)
  | b :: r => b :: percentDecode r
  | [] => []

/-- The text of a parameter, if it is one. -/
def parameter? (segment : String) : Option String :=
  Bytes.toText? (percentDecode (Bytes.ofText segment))

end Storefront.Http
