import Storefront.Json.Failure

namespace Storefront.Json

abbrev Result (α : Type) := Except Failure α

/-- A reader takes what is left of the text and gives a value with what is left after it, or the first fault. -/
abbrev Reader (α : Type) := Bytes → Result (α × Bytes)

/-- A fault after what has been read. -/
def failAt {α : Type} (fault : Fault) (rest : Bytes) : Result α := .error ⟨fault, rest, rest, none⟩

/-- A fault in the next byte, which counts as read when the place is told. -/
def failOn {α : Type} (fault : Fault) (rest : Bytes) : Result α :=
  .error ⟨fault, rest.tail, rest, none⟩

def isBlank (b : UInt8) : Bool := b == 0x20 || b == 0x0a || b == 0x0d || b == 0x09

def skipBlanks (s : Bytes) : Bytes := s.dropWhile isBlank

def isDigit (b : UInt8) : Bool := 0x30 ≤ b && b ≤ 0x39

/-- The rest of a word whose first letter has been read. -/
def word : List Char → Bytes → Result Bytes
  | [], s => .ok s
  | _ :: _, [] => failAt .endInValue []
  | c :: cs, b :: r => if b = Bytes.ascii c then word cs r else failAt .expectedWord r

/-- What a letter after a backslash stands for. -/
def shortEscape? (b : UInt8) : Option UInt8 :=
  if b = 0x22 || b = 0x5c || b = 0x2f then some b
  else if b = 0x62 then some 0x08
  else if b = 0x66 then some 0x0c
  else if b = 0x6e then some 0x0a
  else if b = 0x72 then some 0x0d
  else if b = 0x74 then some 0x09
  else none

def hexValue? (b : UInt8) : Option Nat := Bytes.hexValue? (Char.ofNat b.toNat)

/-- The number of four hexadecimal digits. -/
def fourDigits : Reader Nat
  | a :: b :: c :: d :: r =>
    match hexValue? a, hexValue? b, hexValue? c, hexValue? d with
    | some a, some b, some c, some d => .ok (((a * 16 + b) * 16 + c) * 16 + d, r)
    | _, _, _, _ => failAt .invalidEscape r
  | _ => failAt .endInText []

def utf8 (n : Nat) : Bytes := String.utf8EncodeChar (Char.ofNat n)

/-- The second half of a surrogate pair. -/
def lowSurrogate (high : Nat) : Reader Bytes
  | 0x5c :: 0x75 :: r => do
    let (low, r) ← fourDigits r
    if low < 0xdc00 || 0xdfff < low then failAt .loneSurrogate r
    else .ok (utf8 ((high - 0xd800) * 1024 + (low - 0xdc00) + 0x10000), r)
  | [0x5c] => failAt .endInText []
  | 0x5c :: _ :: r => failAt .unfinishedHexEscape r
  | [] => failAt .endInText []
  | _ :: r => failAt .unfinishedHexEscape r

/-- The bytes of a character given by its number. -/
def unicodeEscape : Reader Bytes := fun s => do
  let (n, r) ← fourDigits s
  if 0xdc00 ≤ n && n ≤ 0xdfff then failAt .loneSurrogate r
  else if 0xd800 ≤ n && n ≤ 0xdbff then lowSurrogate n r
  else .ok (utf8 n, r)

/-- What follows a backslash. -/
def escape : Reader Bytes
  | [] => failAt .endInText []
  | b :: r =>
    match shortEscape? b with
    | some x => .ok ([x], r)
    | none => if b = 0x75 then unicodeEscape r else failAt .invalidEscape r

/-- The bytes up to the closing quotation mark, put after those of `acc`, which are in reverse.  Each
step reads a byte or more, so the length of the text is enough for `fuel`. -/
def textBytesFrom (fuel : Nat) (acc : Bytes) (s : Bytes) : Result (Bytes × Bytes) :=
  match fuel, s with
  | 0, _ => failAt .endInText []
  | _, [] => failAt .endInText []
  | fuel + 1, b :: r =>
    if b = 0x22 then .ok (acc.reverse, r)
    else if b = 0x5c then
      match escape r with
      | .ok (bytes, r) => textBytesFrom fuel (bytes.reverse ++ acc) r
      | .error e => .error e
    else if b < 0x20 then failAt .controlCharacter r
    else textBytesFrom fuel (b :: acc) r

/-- A text whose opening quotation mark has been read. -/
def text : Reader String := fun s => do
  let (bytes, r) ← textBytesFrom (s.length + 1) [] s
  match Bytes.toText? bytes with
  | some t => .ok (t, r)
  | none => failAt .invalidUnicode r

/-- Passes over a text whose opening quotation mark has been read. -/
def skipText : Nat → Bytes → Result Bytes
  | 0, _ => failAt .endInText []
  | _, [] => failAt .endInText []
  | fuel + 1, b :: r =>
    if b = 0x22 then .ok r
    else if b = 0x5c then
      match r with
      | [] => failAt .endInText []
      | e :: r =>
        if (shortEscape? e).isSome then skipText fuel r
        else if e = 0x75 then
          if r.length < 4 then failAt .endInText []
          else if (r.take 4).all fun d => (hexValue? d).isSome then skipText fuel (r.drop 4)
          else failAt .invalidEscape (r.drop 4)
        else failAt .invalidEscape r
    else if b < 0x20 then failAt .controlCharacter (b :: r)
    else skipText fuel r

/-- Whole numbers of 64 bits stay whole; all others, and minus zero, are floating point. -/
inductive Number where
  | natural (n : Nat)
  | negative (n : Nat)
  | float (x : Float)

def Number.found : Number → Found
  | .natural n => .int n
  | .negative n => .int (-(n : Int))
  | .float x => .float x

def Number.toFloat : Number → Float
  | .natural n => n.toUInt64.toFloat
  | .negative n => -n.toUInt64.toFloat
  | .float x => x

def tenTo (n : Nat) : Float := Float.ofScientific 1 false n

/-- A float too small for one power of ten is brought down in steps. -/
def scaleDown (x : Float) (exponent : Nat) : Nat → Float
  | 0 => 0
  | fuel + 1 =>
    if exponent ≤ 308 then x / tenTo exponent
    else if x == 0 then x
    else scaleDown (x / tenTo 308) (exponent - 308) fuel

/-- `significand · 10^exponent` by one multiplication or division, which may be off by a last bit. -/
def floatOf (positive : Bool) (significand : Nat) (exponent : Int) (rest : Bytes) :
    Result (Number × Bytes) :=
  let x := significand.toUInt64.toFloat
  let signed (x : Float) : Number := .float (if positive then x else -x)
  if exponent < 0 then .ok (signed (scaleDown x exponent.natAbs 4), rest)
  else if exponent ≤ 308 then
    let y := x * tenTo exponent.toNat
    if y.isInf then failAt .numberOutOfRange rest else .ok (signed y, rest)
  else if x == 0 then .ok (signed x, rest)
  else failAt .numberOutOfRange rest

/-- Takes digits on as long as the significand has 64 bits; gives the count of those taken. -/
def significandFrom (significand taken : Nat) : Bytes → Nat × Nat × Bytes
  | [] => (significand, taken, [])
  | b :: r =>
    if isDigit b then
      let next := 10 * significand + (b.toNat - 48)
      if Decimal.most64 < next then (significand, taken, b :: r)
      else significandFrom next (taken + 1) r
    else (significand, taken, b :: r)

def skipDigits (s : Bytes) : Bytes := s.dropWhile isDigit

def startsWithDigit : Bytes → Bool
  | b :: _ => isDigit b
  | [] => false

/-- The digits of an exponent up to the one that takes it past 31 bits. -/
def exponentFrom (n : Nat) : Bytes → Option Nat × Bytes
  | [] => (some n, [])
  | b :: r =>
    if isDigit b then
      let next := 10 * n + (b.toNat - 48)
      if Decimal.mostSigned32 < next then (none, r) else exponentFrom next r
    else (some n, b :: r)

/-- What follows the letter of an exponent.  An exponent beyond all bounds makes zero or is refused. -/
def exponentPart (positive : Bool) (significand : Nat) (base : Int) (s : Bytes) :
    Result (Number × Bytes) :=
  let (up, s) := match s with
    | 0x2b :: r => (true, r)
    | 0x2d :: r => (false, r)
    | _ => (true, s)
  match s with
  | [] => failAt .endInValue []
  | b :: r =>
    if !isDigit b then failAt .invalidNumber r
    else match exponentFrom (b.toNat - 48) r with
      | (some e, r) => floatOf positive significand (if up then base + e else base - e) r
      | (none, r) =>
        if significand ≠ 0 && up then failAt .numberOutOfRange r
        else .ok (.float (if positive then 0.0 else -0.0), skipDigits r)

def isExponentLetter (b : UInt8) : Bool := b == 0x65 || b == 0x45

def optionalExponent (positive : Bool) (significand : Nat) (base : Int) : Reader Number
  | b :: r =>
    if isExponentLetter b then exponentPart positive significand base r
    else floatOf positive significand base (b :: r)
  | [] => floatOf positive significand base []

/-- What follows the point of a fraction. -/
def fractionPart (positive : Bool) (significand : Nat) (base : Int) (s : Bytes) :
    Result (Number × Bytes) :=
  let (significand, taken, r) := significandFrom significand 0 s
  if startsWithDigit r then optionalExponent positive significand (base - taken) (skipDigits r)
  else if taken = 0 then match r with
    | [] => failAt .endInValue []
    | _ => failOn .invalidNumber r
  else optionalExponent positive significand (base - taken) r

/-- What follows the digits in front of a point, of which `dropped` did not fit. -/
def afterWhole (positive : Bool) (significand dropped : Nat) (s : Bytes) :
    Result (Number × Bytes) :=
  match s with
  | 0x2e :: r => fractionPart positive significand dropped r
  | _ =>
    if (s.head?.map isExponentLetter).getD false then
      exponentPart positive significand dropped s.tail
    else if dropped ≠ 0 then floatOf positive significand dropped s
    else if positive then .ok (.natural significand, s)
    else if significand = 0 || 0x8000000000000000 < significand then
      .ok (.float (-significand.toUInt64.toFloat), s)
    else .ok (.negative significand, s)

/-- A number whose minus sign, if it has one, has been read. -/
def number (positive : Bool) : Reader Number
  | [] => failAt .endInValue []
  | b :: r =>
    if b = 0x30 then
      if startsWithDigit r then failOn .invalidNumber r else afterWhole positive 0 0 r
    else if isDigit b then
      let (significand, _, s) := significandFrom (b.toNat - 48) 0 r
      afterWhole positive significand (s.takeWhile isDigit).length (skipDigits s)
    else failAt .invalidNumber r

def skipExponent : Bytes → Result Bytes := fun s =>
  let s := match s with
    | 0x2b :: r => r
    | 0x2d :: r => r
    | _ => s
  if startsWithDigit s then .ok (skipDigits s) else failAt .invalidNumber s.tail

def skipNumber (s : Bytes) : Result Bytes :=
  match s with
  | [] => failAt .invalidNumber []
  | b :: r =>
    if !isDigit b then failAt .invalidNumber r
    else if b = 0x30 && startsWithDigit r then failOn .invalidNumber r
    else match skipDigits s with
      | 0x2e :: r =>
        if !startsWithDigit r then failOn .invalidNumber r
        else match skipDigits r with
          | b :: r' => if isExponentLetter b then skipExponent r' else .ok (b :: r')
          | [] => .ok []
      | b :: r' => if isExponentLetter b then skipExponent r' else .ok (b :: r')
      | [] => .ok []

/-- The colon between a key and its value. -/
def colon (s : Bytes) : Result Bytes :=
  match skipBlanks s with
  | [] => failAt .endInObject []
  | 0x3a :: r => .ok r
  | r => failOn .expectedColon r

/-- Goes to the next key of an object, or to the brace that closes it. -/
def nextKey (first : Bool) (s : Bytes) : Result (Option Bytes × Bytes) :=
  match skipBlanks s with
  | [] => failAt .endInObject []
  | 0x7d :: r => .ok (none, r)
  | 0x2c :: r =>
    if first then failOn .keyNotText (0x2c :: r)
    else match skipBlanks r with
      | [] => failAt .endInValue []
      | 0x22 :: r => .ok (some r, r)
      | 0x7d :: r => failOn .trailingComma (0x7d :: r)
      | r => failOn .keyNotText r
  | b :: r =>
    if !first then failOn .expectedCommaOrBrace (b :: r)
    else if b = 0x22 then .ok (some r, r)
    else failOn .keyNotText (b :: r)

/-- Reads the members of an object whose brace has been read; `member` gets the key and starts in front
of the colon. -/
def members {σ : Type} (member : String → σ → Reader σ) (fuel : Nat) (first : Bool) (state : σ) :
    Reader σ := fun s =>
  match fuel with
  | 0 => failAt .endInObject []
  | fuel + 1 => do
    match ← nextKey first s with
    | (none, r) => .ok (state, r)
    | (some r, _) =>
      let (key, r) ← text r
      let (state, r) ← member key state r
      members member fuel false state r

/-- Goes to the next element of a list, or to the bracket that closes it. -/
def nextElement (first : Bool) (s : Bytes) : Result (Option Bytes × Bytes) :=
  match skipBlanks s with
  | [] => failAt .endInList []
  | 0x5d :: r => .ok (none, r)
  | b :: r =>
    if first then .ok (some (b :: r), r)
    else if b = 0x2c then
      match skipBlanks r with
      | [] => failAt .endInValue []
      | 0x5d :: r => failOn .trailingComma (0x5d :: r)
      | r => .ok (some r, r)
    else failOn .expectedCommaOrBracket (b :: r)

/-- The brace of an object that has as many members as it can have. -/
def closeObject (s : Bytes) : Result Bytes :=
  match skipBlanks s with
  | [] => failAt .endInObject []
  | 0x7d :: r => .ok r
  | 0x2c :: r => failOn .trailingComma (0x2c :: r)
  | r => failOn .trailingCharacters r

/-- The bracket of a list that has as many elements as it can have. -/
def closeList (s : Bytes) : Result Bytes :=
  match skipBlanks s with
  | [] => failAt .endInList []
  | 0x5d :: r => .ok r
  | 0x2c :: r =>
    match skipBlanks r with
    | 0x5d :: r => failOn .trailingComma (0x5d :: r)
    | r => failOn .trailingCharacters r
  | r => failOn .trailingCharacters r

/-- Reads the elements of a list whose bracket has been read. -/
def elements {σ : Type} (element : σ → Reader σ) (fuel : Nat) (first : Bool) (state : σ) :
    Reader σ := fun s =>
  match fuel with
  | 0 => failAt .endInList []
  | fuel + 1 => do
    match ← nextElement first s with
    | (none, r) => .ok (state, r)
    | (some r, _) =>
      let (state, r) ← element state r
      elements element fuel false state r

/-- Reading stops behind the end of a list or an object in which something failed, if that comes next. -/
def closing {α : Type} (close : Bytes → Result Bytes) : Result α → Result α
  | .ok a => .ok a
  | .error f => match close f.left with
    | .ok r => .error { f with left := r }
    | .error e => .error { f with left := e.left }

/-- Checks one value; `inner` checks what a list or an object holds, if there may be one here. -/
def checkWith (inner : Option (Reader Unit)) : Reader Unit := fun s =>
  match skipBlanks s with
  | [] => failAt .endInValue []
  | 0x6e :: r => do .ok ((), ← word ['u', 'l', 'l'] r)
  | 0x74 :: r => do .ok ((), ← word ['r', 'u', 'e'] r)
  | 0x66 :: r => do .ok ((), ← word ['a', 'l', 's', 'e'] r)
  | 0x2d :: r => do .ok ((), (← number false r).2)
  | 0x22 :: r => do .ok ((), (← text r).2)
  | 0x5b :: r =>
    match inner with
    | none => failOn .tooDeep (0x5b :: r)
    | some read => closing closeList (elements (fun _ => read) (r.length + 1) true () r)
  | 0x7b :: r =>
    match inner with
    | none => failOn .tooDeep (0x7b :: r)
    | some read =>
      closing closeObject (members (fun _ _ s => do read (← colon s)) (r.length + 1) true () r)
  | b :: r =>
    if isDigit b then do .ok ((), (← number true (b :: r)).2) else failOn .expectedValue (b :: r)

/-- Checks one value of at most `depth` levels. -/
def checkValue : (depth : Nat) → Reader Unit
  | 0 => checkWith none
  | depth + 1 => checkWith (some (checkValue depth))

/-- What encloses the place where a value is being passed over. -/
inductive Enclosing where
  | list
  | object
  deriving DecidableEq

/-- Passes over the key and the colon of a member. -/
def skipKey (fuel : Nat) (s : Bytes) : Result Bytes :=
  match skipBlanks s with
  | [] => failAt .endInObject []
  | 0x22 :: r => do colon (← skipText fuel r)
  | r => failOn .keyNotText r

mutual

/-- Passes over a value, then over what is left of the lists and objects around it. -/
def skipFrom (fuel : Nat) (around : List Enclosing) (s : Bytes) : Result Bytes :=
  match fuel with
  | 0 => failAt .endInValue []
  | fuel + 1 =>
    let size := s.length + 1
    match skipBlanks s with
    | [] => failAt .endInValue []
    | 0x6e :: r => do skipAfter fuel true around (← word ['u', 'l', 'l'] r)
    | 0x74 :: r => do skipAfter fuel true around (← word ['r', 'u', 'e'] r)
    | 0x66 :: r => do skipAfter fuel true around (← word ['a', 'l', 's', 'e'] r)
    | 0x2d :: r => do skipAfter fuel true around (← skipNumber r)
    | 0x22 :: r => do skipAfter fuel true around (← skipText size r)
    | 0x5b :: r => skipAfter fuel false (.list :: around) r
    | 0x7b :: r => skipAfter fuel false (.object :: around) r
    | b :: r =>
      if isDigit b then do skipAfter fuel true around (← skipNumber (b :: r))
      else failOn .expectedValue (b :: r)

/-- Goes on behind a value, or behind an opening bracket if `comma` is false. -/
def skipAfter (fuel : Nat) (comma : Bool) (around : List Enclosing) (s : Bytes) : Result Bytes :=
  match fuel with
  | 0 => failAt .endInValue []
  | fuel + 1 =>
    match around with
    | [] => .ok s
    | e :: outer =>
      let size := s.length + 1
      let enter (s : Bytes) : Result Bytes := do
        match e with
        | .list => skipFrom fuel around s
        | .object => skipFrom fuel around (← skipKey size s)
      match skipBlanks s with
      | [] => failAt (if e = .list then .endInList else .endInObject) []
      | b :: r =>
        if (b = 0x5d && e = .list) || (b = 0x7d && e = .object) then skipAfter fuel true outer r
        else if !comma then enter (b :: r)
        else if b = 0x2c then enter r
        else failOn (if e = .list then .expectedCommaOrBracket else .expectedCommaOrBrace) (b :: r)

end

/-- Passes over one value.  Skipping checks less than reading: numbers may be of any size, escaped surrogates may
stand alone, and there is no limit on nesting. -/
def skipValue (s : Bytes) : Result Bytes := skipFrom (2 * s.length + 2) [] s

/-- Nothing but blanks may follow the value of a text. -/
def atEnd (s : Bytes) : Result Unit :=
  match skipBlanks s with
  | [] => .ok ()
  | r => failOn .trailingCharacters r

/-- How deep a value may be nested. -/
def depthLimit : Nat := 127

/-- Checks a text that holds one value. -/
def check (s : Bytes) : Result Unit := do
  let ((), r) ← checkValue depthLimit s
  atEnd r

/-- Refuses the value that comes next as one of the wrong type.  Scalars are read first and may be
faulty themselves. -/
def refuse {α : Type} (expected : String) (s : Bytes) : Result α :=
  match s with
  | 0x6e :: r => do failAt (.invalidType .null expected) (← word ['u', 'l', 'l'] r)
  | 0x74 :: r => do failAt (.invalidType (.bool true) expected) (← word ['r', 'u', 'e'] r)
  | 0x66 :: r => do failAt (.invalidType (.bool false) expected) (← word ['a', 'l', 's', 'e'] r)
  | 0x2d :: r => do
    let (n, r) ← number false r
    failAt (.invalidType n.found expected) r
  | 0x22 :: r => do
    let (t, r) ← text r
    failAt (.invalidType (.text t) expected) r
  | 0x5b :: _ => failAt (.invalidType .sequence expected) s
  | 0x7b :: _ => failAt (.invalidType .map expected) s
  | b :: _ =>
    if isDigit b then do
      let (n, r) ← number true s
      failAt (.invalidType n.found expected) r
    else failOn .expectedValue s
  | [] => failAt .endInValue []

def readText : Reader String := fun s =>
  match skipBlanks s with
  | 0x22 :: r => text r
  | r => refuse "a string" r

/-- A number of any form; `expected` is told when there is none. -/
def readNumber (expected : String) : Reader Number := fun s =>
  match skipBlanks s with
  | [] => failAt .endInValue []
  | 0x2d :: r => number false r
  | b :: r => if isDigit b then number true (b :: r) else refuse expected (b :: r)

def readFloat : Reader Float := fun s => do
  let (n, r) ← readNumber "f64" s
  .ok (n.toFloat, r)

/-- A whole number between two bounds. -/
def readInt (name : String) (least most : Int) : Reader Int := fun s => do
  let (n, r) ← readNumber name s
  let whole (i : Int) : Result (Int × Bytes) :=
    if least ≤ i ∧ i ≤ most then .ok (i, r) else failAt (.invalidValue (.int i) name) r
  match n with
  | .natural n => whole n
  | .negative n => whole (-(n : Int))
  | .float x => failAt (.invalidType (.float x) name) r

/-- Nothing for null, else what `read` gives. -/
def optional {α : Type} (read : Reader α) : Reader (Option α) := fun s =>
  match skipBlanks s with
  | 0x6e :: r => do .ok (none, ← word ['u', 'l', 'l'] r)
  | r => do
    let (a, r) ← read r
    .ok (some a, r)

/-- Checks a list of texts. -/
def readTexts : Reader Unit := fun s =>
  match skipBlanks s with
  | 0x5b :: r =>
    elements (fun _ s => do let (_, r) ← readText s; .ok ((), r)) (r.length + 1) true () r
  | r => refuse "a list" r

/-- Checks that null comes next. -/
def readNull : Reader Unit := fun s =>
  match skipBlanks s with
  | 0x6e :: r => do .ok ((), ← word ['u', 'l', 'l'] r)
  | r => refuse "unit" r

/-- A choice among words is a text, or an object whose one key is the word; its value is `nothing`. -/
def readWord (nothing : Reader Unit) : Reader String := fun s =>
  match skipBlanks s with
  | [] => failAt .endInValue []
  | 0x22 :: r => text r
  | 0x7b :: r =>
    match skipBlanks r with
    | 0x22 :: r => do
      let (t, r) ← text r
      let r ← colon r
      let ((), r) ← nothing r
      match skipBlanks r with
      | 0x7d :: r => .ok (t, r)
      | r => failAt .expectedValue r
    | r => failOn .expectedValue r
  | r => failOn .expectedValue r

/-- Only some texts will do. -/
def among (words : List String) (read : Reader String) : Reader String := fun s => do
  let (w, r) ← read s
  if words.contains w then .ok (w, r) else failAt .expectedValue r

/-- Whether a reader takes what comes next. -/
def isRead {α : Type} (read : Reader α) (value : Bytes) : Bool :=
  match read value with
  | .ok _ => true
  | .error _ => false

/-- Nothing for a value that is well written but that `read` does not take, if it is read to its end all the
same, as a number that is out of range. -/
def overlooking {α : Type} (read : Reader α) : Reader (Option α) := fun s => do
  let past ← skipValue s
  match read s with
  | .ok (a, r) => .ok (some a, r)
  | .error f => if f.left = past then .ok (none, past) else .error f

/-- A text that holds one value of 32 bits. -/
def int32 (s : Bytes) : Result Int := do
  let (n, r) ← readInt "i32" Decimal.leastSigned32 Decimal.mostSigned32 s
  atEnd r
  .ok n

/-- A text that holds one text. -/
def oneText (s : Bytes) : Result String := do
  let (t, r) ← readText s
  atEnd r
  .ok t

end Storefront.Json
