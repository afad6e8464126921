import TestConductor.Json.Lexeme
import TestConductor.Json.Shape
/-! # Reading JSON text

`Json.readText shape s` reads the text `s` as data of `shape`, in one pass from left to right,
and gives the canonical value or the first refusal with its place. The shape steers the pass:
the kind of each value is checked when its first byte is seen, so a value of the wrong kind is
refused before anything after it is looked at. Containers may nest 127 deep. A field that a
record does not know is skipped, checking only the form of its text.
-/
namespace TestConductor

namespace Json

def depthLimit : Nat := 128

def byte (c : Char) : UInt8 := c.toNat.toUInt8

def unexpectedEnd {α : Type} (c : Cursor) : Except Failure α := faultAt .eofInValue c.ahead c

/-- Reads the value that stands where another kind was expected, to say what was found.
Brackets are not consumed. -/
def readFound (c : Cursor) : Except Failure (Found × Cursor) :=
  match c.rest with
  | b :: _ =>
    if b == byte 'n' then do let c ← readKeyword (utf8 "ull") c.bump; pure (.null, c)
    else if b == byte 't' then do let c ← readKeyword (utf8 "rue") c.bump; pure (.bool true, c)
    else if b == byte 'f' then do let c ← readKeyword (utf8 "alse") c.bump; pure (.bool false, c)
    else if b == byte '-' then do let (n, c) ← readNumber false c.bump; pure (.ofNumber n, c)
    else if isDigit b then do let (n, c) ← readNumber true c; pure (.ofNumber n, c)
    else if b == byte '"' then do let (s, c) ← readStringBody c.bump []; pure (.str s, c)
    else if b == byte '[' then .ok (.seq, c)
    else if b == byte '{' then .ok (.map, c)
    else faultAt .expectedValue c.ahead c
  | [] => faultAt .expectedValue c.ahead c

def refuseFound {α : Type} (expected : String) (c : Cursor) : Except Failure α := do
  let (found, c) ← readFound c
  placeFault (dataAt (.invalidType found expected) c)

def closeSeq (c : Cursor) : Except Failure Cursor :=
  let c := c.skipBlank
  match c.rest with
  | b :: _ =>
    if b == byte ']' then .ok c.bump
    else if b == byte ',' then
      let c' := c.bump.skipBlank
      match c'.rest with
      | d :: _ => if d == byte ']' then faultAt .trailingComma c'.ahead c' else faultAt .trailingCharacters c'.ahead c'
      | [] => faultAt .trailingCharacters c'.ahead c'
    else faultAt .trailingCharacters c.ahead c
  | [] => faultAt .eofInList c.ahead c

def closeMap (c : Cursor) : Except Failure Cursor :=
  let c := c.skipBlank
  match c.rest with
  | b :: _ =>
    if b == byte '}' then .ok c.bump
    else if b == byte ',' then faultAt .trailingComma c.ahead c
    else faultAt .trailingCharacters c.ahead c
  | [] => faultAt .eofInObject c.ahead c

/-- Finishes a container: its contents' result, then its closing, then the place of a refusal
that has none, at the cursor after the closing was attempted. -/
def finishContainer {α : Type} (close : Cursor → Except Failure Cursor)
    (r : Except Failure (α × Cursor)) : Except Failure (α × Cursor) :=
  match r with
  | .ok (a, c) => do let c ← close c; pure (a, c)
  | .error (f, c) =>
    let c' := match close c with
      | .ok c' => c'
      | .error (_, c') => c'
    placeFault (.error (f, c'))

def nextItem (first : Bool) (c : Cursor) : Except Failure (Option Cursor) :=
  let c := c.skipBlank
  match c.rest with
  | [] => faultAt .eofInList c.ahead c
  | b :: _ =>
    if b == byte ']' then .ok none
    else
      let next : Except Failure Cursor :=
        if b == byte ',' ∧ !first then .ok c.bump.skipBlank
        else if first then .ok c
        else faultAt .expectedListCommaOrEnd c.ahead c
      match next with
      | .error e => .error e
      | .ok c =>
        match c.rest with
        | [] => faultAt .eofInValue c.ahead c
        | d :: _ => if d == byte ']' then faultAt .trailingComma c.ahead c else .ok (some c)

def nextKey (first : Bool) (c : Cursor) : Except Failure (Option (String × Cursor)) :=
  let c := c.skipBlank
  match c.rest with
  | [] => faultAt .eofInObject c.ahead c
  | b :: _ =>
    if b == byte '}' then .ok none
    else
      let next : Except Failure Cursor :=
        if b == byte ',' ∧ !first then .ok c.bump.skipBlank
        else if first then .ok c
        else faultAt .expectedObjectCommaOrEnd c.ahead c
      match next with
      | .error e => .error e
      | .ok c =>
        match c.rest with
        | [] => faultAt .eofInValue c.ahead c
        | d :: _ =>
          if d == byte '"' then do
            let (k, c) ← readStringBody c.bump []
            pure (some (k, c))
          else if d == byte '}' then faultAt .trailingComma c.ahead c
          else faultAt .keyMustBeString c.ahead c

def readColon (c : Cursor) : Except Failure Cursor :=
  let c := c.skipBlank
  match c.rest with
  | b :: _ => if b == byte ':' then .ok c.bump else faultAt .expectedColon c.ahead c
  | [] => faultAt .eofInObject c.ahead c

/-- What a skipping pass expects next. -/
inductive SkipMode where
  /-- A value. -/
  | value
  /-- A comma or the closing bracket of the innermost open container; `comma` tells whether a
  comma may come (false right after an opening bracket). -/
  | close (comma : Bool)
  /-- The next field name with its colon, in an object, or nothing in an array. -/
  | key

/-- Skips values, checking their form only; `open` lists the open containers, innermost first
(`true` for an object). Each round consumes a byte, or moves on to a mode that will. -/
def skipLoop : Nat → SkipMode → List Bool → Cursor → Except Failure Cursor
  | 0, _, _, c => faultAt .eofInValue c.here c
  | fuel + 1, .value, opens, c =>
    let c := c.skipBlank
    let after (c : Cursor) : Except Failure Cursor :=
      if opens.isEmpty then .ok c else skipLoop fuel (.close true) opens c
    match c.rest with
    | [] => faultAt .eofInValue c.ahead c
    | b :: _ =>
      if b == byte 'n' then do after (← readKeyword (utf8 "ull") c.bump)
      else if b == byte 't' then do after (← readKeyword (utf8 "rue") c.bump)
      else if b == byte 'f' then do after (← readKeyword (utf8 "alse") c.bump)
      else if b == byte '-' then do after (← skipNumber c.bump)
      else if isDigit b then do after (← skipNumber c)
      else if b == byte '"' then do after (← skipStringBody c.bump)
      else if b == byte '[' then skipLoop fuel (.close false) (false :: opens) c.bump
      else if b == byte '{' then skipLoop fuel (.close false) (true :: opens) c.bump
      else faultAt .expectedValue c.ahead c
  | fuel + 1, .close comma, opens, c =>
    match opens with
    | [] => .ok c
    | isObj :: outer =>
      let c := c.skipBlank
      match c.rest with
      | [] => faultAt (if isObj then .eofInObject else .eofInList) c.ahead c
      | b :: _ =>
        if b == byte ',' ∧ comma then skipLoop fuel .key opens c.bump
        else if (b == byte ']' ∧ !isObj) ∨ (b == byte '}' ∧ isObj) then
          if outer.isEmpty then .ok c.bump else skipLoop fuel (.close true) outer c.bump
        else if comma then
          faultAt (if isObj then .expectedObjectCommaOrEnd else .expectedListCommaOrEnd) c.ahead c
        else skipLoop fuel .key opens c
  | fuel + 1, .key, opens, c =>
    match opens with
    | true :: _ =>
      let c := c.skipBlank
      match c.rest with
      | [] => faultAt .eofInObject c.ahead c
      | b :: _ =>
        if b == byte '"' then do
          let c ← skipStringBody c.bump
          let c := c.skipBlank
          match c.rest with
          | [] => faultAt .eofInObject c.ahead c
          | d :: _ =>
            if d == byte ':' then skipLoop fuel .value opens c.bump
            else faultAt .expectedColon c.ahead c
        else faultAt .keyMustBeString c.ahead c
    | _ => skipLoop fuel .value opens c

def skipValue (c : Cursor) : Except Failure Cursor :=
  skipLoop (4 * c.rest.length + 8) .value [] c

mutual
def readAny : Nat → Nat → Cursor → Except Failure (Json × Cursor)
  | 0, _, c => unexpectedEnd c
  | fuel + 1, depth, c =>
    let c := c.skipBlank
    match c.rest with
    | [] => faultAt .eofInValue c.ahead c
    | b :: _ =>
      if b == byte 'n' then do let c ← readKeyword (utf8 "ull") c.bump; pure (.null, c)
      else if b == byte 't' then do let c ← readKeyword (utf8 "rue") c.bump; pure (.bool true, c)
      else if b == byte 'f' then do let c ← readKeyword (utf8 "alse") c.bump; pure (.bool false, c)
      else if b == byte '-' then do let (n, c) ← readNumber false c.bump; pure (.num n, c)
      else if isDigit b then do let (n, c) ← readNumber true c; pure (.num n, c)
      else if b == byte '"' then do let (s, c) ← readStringBody c.bump []; pure (.str s, c)
      else if b == byte '[' then
        if depth ≤ 1 then faultAt .recursionLimit c.ahead c
        else finishContainer closeSeq
          ((readAnyItems fuel (depth - 1) true c.bump []).map fun (xs, c) => (.arr xs, c))
      else if b == byte '{' then
        if depth ≤ 1 then faultAt .recursionLimit c.ahead c
        else finishContainer closeMap
          ((readAnyFields fuel (depth - 1) true c.bump []).map fun (fs, c) => (.obj fs, c))
      else faultAt .expectedValue c.ahead c

def readAnyItems : Nat → Nat → Bool → Cursor → List Json → Except Failure (List Json × Cursor)
  | 0, _, _, c, _ => unexpectedEnd c
  | fuel + 1, depth, first, c, acc =>
    match nextItem first c with
    | .error e => .error e
    | .ok none => .ok (acc.reverse, c.skipBlank)
    | .ok (some c) =>
      match readAny fuel depth c with
      | .error e => .error e
      | .ok (v, c) => readAnyItems fuel depth false c (v :: acc)

def readAnyFields : Nat → Nat → Bool → Cursor → List (String × Json) →
    Except Failure (List (String × Json) × Cursor)
  | 0, _, _, c, _ => unexpectedEnd c
  | fuel + 1, depth, first, c, acc =>
    match nextKey first c with
    | .error e => .error e
    | .ok none => .ok (acc, c.skipBlank)
    | .ok (some (k, c)) =>
      match readColon c with
      | .error e => .error e
      | .ok c =>
        match readAny fuel depth c with
        | .error e => .error e
        | .ok (v, c) => readAnyFields fuel depth false c (insertField k v acc)
end

def checkInteger (s : Shape) (n : Number) : Except DataFault Json :=
  match s with
  | .unsigned max name => Shape.checkUnsigned max name n
  | .signed min max name => Shape.checkSigned min max name n
  | _ => .ok (.num n)

def readInteger (s : Shape) (c : Cursor) : Except Failure (Json × Cursor) :=
  let c := c.skipBlank
  let check (r : Except Failure (Number × Cursor)) : Except Failure (Json × Cursor) :=
    match r with
    | .error e => .error e
    | .ok (n, c) =>
      match checkInteger s n with
      | .ok j => .ok (j, c)
      | .error f => placeFault (dataAt f c)
  match c.rest with
  | [] => faultAt .eofInValue c.ahead c
  | b :: _ =>
    if b == byte '-' then check (readNumber false c.bump)
    else if isDigit b then check (readNumber true c)
    else refuseFound s.expecting c

def readParsedString (expecting : String) (parse : String → Except String Json) (c : Cursor) :
    Except Failure (Json × Cursor) :=
  let c := c.skipBlank
  match c.rest with
  | [] => faultAt .eofInValue c.ahead c
  | b :: _ =>
    if b == byte '"' then
      match readStringBody c.bump [] with
      | .error e => .error e
      | .ok (s, c) =>
        match parse s with
        | .ok j => .ok (j, c)
        | .error m => placeFault (dataAt (.custom m) c)
    else refuseFound expecting c

/-- Reads the name of an enumeration case, refusing an unknown one. Written as the key of an
object, the name must be a string. -/
def readCaseName (names : List String) (c : Cursor) : Except Failure (String × Cursor) :=
  let c := c.skipBlank
  match c.rest with
  | [] => faultAt .eofInValue c.ahead c
  | b :: _ =>
    if b == byte '"' then
      match readStringBody c.bump [] with
      | .error e => .error e
      | .ok (s, c) =>
        if names.contains s then .ok (s, c) else placeFault (dataAt (.unknownVariant s names) c)
    else if b == byte '}' then refuseFound "variant identifier" c
    else faultAt .keyMustBeString c.ahead c

def readUnit (c : Cursor) : Except Failure Cursor :=
  let c := c.skipBlank
  match c.rest with
  | [] => faultAt .eofInValue c.ahead c
  | b :: _ =>
    if b == byte 'n' then readKeyword (utf8 "ull") c.bump
    else refuseFound "unit" c

def closeCase (c : Cursor) : Except Failure Cursor :=
  let c := c.skipBlank
  match c.rest with
  | b :: _ => if b == byte '}' then .ok c.bump else faultAt .expectedValue c.here c
  | [] => faultAt .eofInObject c.here c

def missingValue (name : String) : Missing → Except DataFault Json
  | .required => .error (.missingField name)
  | .optional => .ok .null
  | .fallback j => .ok j

def fillRecord (fields : List (String × Shape × Missing)) (got : List (String × Json)) :
    Except DataFault (List (String × Json)) :=
  fields.mapM fun (name, _, missing) =>
    match got.lookup name with
    | some v => .ok (name, v)
    | none => (missingValue name missing).map fun v => (name, v)

def durationOf (secs nanos : Option Json) : Except DataFault Json :=
  match secs, nanos with
  | none, _ => .error (.missingField "secs")
  | _, none => .error (.missingField "nanos")
  | some s, some n => Shape.normalDuration (s.asNat?.getD 0) (n.asNat?.getD 0)

mutual
def readShape : Nat → Nat → Shape → Cursor → Except Failure (Json × Cursor)
  | 0, _, _, c => unexpectedEnd c
  | fuel + 1, depth, shape, c =>
    match shape with
    | .any => readAny (fuel + 1) depth c
    | .unsigned _ _ | .signed _ _ _ => readInteger shape c
    | .bool =>
      let c := c.skipBlank
      match c.rest with
      | [] => faultAt .eofInValue c.ahead c
      | b :: _ =>
        if b == byte 't' then do let c ← readKeyword (utf8 "rue") c.bump; pure (.bool true, c)
        else if b == byte 'f' then do let c ← readKeyword (utf8 "alse") c.bump; pure (.bool false, c)
        else refuseFound "a boolean" c
    | .string => readParsedString "a string" (fun s => .ok (.str s)) c
    | .text e parse => readParsedString e parse c
    | .optional inner =>
      let c := c.skipBlank
      match c.rest with
      | b :: _ =>
        if b == byte 'n' then do let c ← readKeyword (utf8 "ull") c.bump; pure (.null, c)
        else readShape fuel depth inner c
      | [] => readShape fuel depth inner c
    | .list item =>
      let c := c.skipBlank
      match c.rest with
      | [] => faultAt .eofInValue c.ahead c
      | b :: _ =>
        if b == byte '[' then
          if depth ≤ 1 then faultAt .recursionLimit c.ahead c
          else finishContainer closeSeq
            ((readItems fuel (depth - 1) item true c.bump []).map fun (xs, c) => (.arr xs, c))
        else refuseFound "a sequence" c
    | .dict item =>
      let c := c.skipBlank
      match c.rest with
      | [] => faultAt .eofInValue c.ahead c
      | b :: _ =>
        if b == byte '{' then
          if depth ≤ 1 then faultAt .recursionLimit c.ahead c
          else finishContainer closeMap
            ((readEntries fuel (depth - 1) item true c.bump []).map fun (fs, c) => (.obj fs, c))
        else refuseFound "a map" c
    | .record name fields =>
      let c := c.skipBlank
      match c.rest with
      | [] => faultAt .eofInValue c.ahead c
      | b :: _ =>
        if b == byte '{' then
          if depth ≤ 1 then faultAt .recursionLimit c.ahead c
          else finishContainer closeMap
            (match readFields fuel (depth - 1) fields true c.bump [] with
              | .error e => .error e
              | .ok (got, c) =>
                match fillRecord fields got with
                | .ok fs => .ok (.obj fs, c)
                | .error f => dataAt f c)
        else if b == byte '[' then
          if depth ≤ 1 then faultAt .recursionLimit c.ahead c
          else finishContainer closeSeq
            ((readPositional fuel (depth - 1) name fields.length fields 0 true c.bump []).map
              fun (fs, c) => (.obj fs, c))
        else refuseFound ("struct " ++ name) c
    | .duration =>
      let c := c.skipBlank
      match c.rest with
      | [] => faultAt .eofInValue c.ahead c
      | b :: _ =>
        if b == byte '{' then
          if depth ≤ 1 then faultAt .recursionLimit c.ahead c
          else finishContainer closeMap (readDurationFields fuel (depth - 1) true c.bump none none)
        else if b == byte '[' then
          if depth ≤ 1 then faultAt .recursionLimit c.ahead c
          else finishContainer closeSeq (readDurationItems fuel (depth - 1) c.bump)
        else refuseFound "struct Duration" c
    | .units names =>
      let c := c.skipBlank
      match c.rest with
      | [] => faultAt .eofInValue c.ahead c
      | b :: _ =>
        if b == byte '"' then do
          let (s, c) ← readCaseName names c
          pure (.str s, c)
        else if b == byte '{' then
          if depth ≤ 1 then faultAt .recursionLimit c.ahead c
          else do
            let (s, c) ← readCaseName names c.bump
            let c ← readColon c
            let c ← readUnit c
            let c ← closeCase c
            pure (.str s, c)
        else faultAt .expectedValue c.ahead c
    | .tagged cases =>
      let c := c.skipBlank
      match c.rest with
      | [] => faultAt .eofInValue c.ahead c
      | b :: _ =>
        if b == byte '"' then
          match readCaseName (Shape.caseNames cases) c with
          | .error e => .error e
          | .ok (_, c) => dataAt (.invalidType .unitVariant "newtype variant") c
        else if b == byte '{' then
          if depth ≤ 1 then faultAt .recursionLimit c.ahead c
          else
            match readCaseName (Shape.caseNames cases) c.bump with
            | .error e => .error e
            | .ok (s, c) =>
              match readColon c with
              | .error e => .error e
              | .ok c =>
                match readShape fuel (depth - 1) ((cases.lookup s).getD .any) c with
                | .error e => .error e
                | .ok (v, c) =>
                  match closeCase c with
                  | .error e => .error e
                  | .ok c => .ok (.obj [(s, v)], c)
        else faultAt .expectedValue c.ahead c

def readItems : Nat → Nat → Shape → Bool → Cursor → List Json → Except Failure (List Json × Cursor)
  | 0, _, _, _, c, _ => unexpectedEnd c
  | fuel + 1, depth, item, first, c, acc =>
    match nextItem first c with
    | .error e => .error e
    | .ok none => .ok (acc.reverse, c.skipBlank)
    | .ok (some c) =>
      match readShape fuel depth item c with
      | .error e => .error e
      | .ok (v, c) => readItems fuel depth item false c (v :: acc)

def readEntries : Nat → Nat → Shape → Bool → Cursor → List (String × Json) →
    Except Failure (List (String × Json) × Cursor)
  | 0, _, _, _, c, _ => unexpectedEnd c
  | fuel + 1, depth, item, first, c, acc =>
    match nextKey first c with
    | .error e => .error e
    | .ok none => .ok (acc, c.skipBlank)
    | .ok (some (k, c)) =>
      match readColon c with
      | .error e => .error e
      | .ok c =>
        match readShape fuel depth item c with
        | .error e => .error e
        | .ok (v, c) => readEntries fuel depth item false c (insertField k v acc)

/-- Reads the fields of a record written as an object, up to the closing brace; unknown
fields are skipped and a field given twice is refused. -/
def readFields : Nat → Nat → List (String × Shape × Missing) → Bool → Cursor →
    List (String × Json) → Except Failure (List (String × Json) × Cursor)
  | 0, _, _, _, c, _ => unexpectedEnd c
  | fuel + 1, depth, fields, first, c, got =>
    match nextKey first c with
    | .error e => .error e
    | .ok none => .ok (got, c.skipBlank)
    | .ok (some (k, c)) =>
      match fields.lookup k with
      | some (s, _) =>
        if (got.lookup k).isSome then dataAt (.duplicateField k) c
        else
          match readColon c with
          | .error e => .error e
          | .ok c =>
            match readShape fuel depth s c with
            | .error e => .error e
            | .ok (v, c) => readFields fuel depth fields false c (got ++ [(k, v)])
      | none =>
        match readColon c with
        | .error e => .error e
        | .ok c =>
          match skipValue c with
          | .error e => .error e
          | .ok c => readFields fuel depth fields false c got

/-- Reads the fields of a record written as an array, in declaration order; `index` counts
the fields before `rest`. A missing field takes its default, or refuses the array. -/
def readPositional : Nat → Nat → String → Nat → List (String × Shape × Missing) → Nat → Bool →
    Cursor → List (String × Json) → Except Failure (List (String × Json) × Cursor)
  | 0, _, _, _, _, _, _, c, _ => unexpectedEnd c
  | _ + 1, _, _, _, [], _, _, c, acc => .ok (acc.reverse, c)
  | fuel + 1, depth, name, total, (k, s, missing) :: rest, index, first, c, acc =>
    match nextItem first c with
    | .error e => .error e
    | .ok none =>
      match missing with
      | .fallback j => readPositional fuel depth name total rest (index + 1) first c ((k, j) :: acc)
      | _ => dataAt (.invalidLength index (Shape.recordLength name total)) c
    | .ok (some c) =>
      match readShape fuel depth s c with
      | .error e => .error e
      | .ok (v, c) => readPositional fuel depth name total rest (index + 1) false c ((k, v) :: acc)

def readDurationFields : Nat → Nat → Bool → Cursor → Option Json → Option Json →
    Except Failure (Json × Cursor)
  | 0, _, _, c, _, _ => unexpectedEnd c
  | fuel + 1, depth, first, c, secs, nanos =>
    match nextKey first c with
    | .error e => .error e
    | .ok none =>
      let c := c.skipBlank
      match durationOf secs nanos with
      | .ok j => .ok (j, c)
      | .error f => dataAt f c
    | .ok (some (k, c)) =>
      if k == "secs" then
        if secs.isSome then dataAt (.duplicateField k) c
        else
          match readColon c with
          | .error e => .error e
          | .ok c =>
            match readShape fuel depth Shape.u64 c with
            | .error e => .error e
            | .ok (v, c) => readDurationFields fuel depth false c (some v) nanos
      else if k == "nanos" then
        if nanos.isSome then dataAt (.duplicateField k) c
        else
          match readColon c with
          | .error e => .error e
          | .ok c =>
            match readShape fuel depth Shape.u32 c with
            | .error e => .error e
            | .ok (v, c) => readDurationFields fuel depth false c secs (some v)
      else dataAt (.unknownField k ["secs", "nanos"]) c

def readDurationItems : Nat → Nat → Cursor → Except Failure (Json × Cursor)
  | 0, _, c => unexpectedEnd c
  | fuel + 1, depth, c =>
    match nextItem true c with
    | .error e => .error e
    | .ok none => dataAt (.invalidLength 0 "struct Duration") c
    | .ok (some c) =>
      match readShape fuel depth Shape.u64 c with
      | .error e => .error e
      | .ok (secs, c) =>
        match nextItem false c with
        | .error e => .error e
        | .ok none => dataAt (.invalidLength 1 "struct Duration") c
        | .ok (some c) =>
          match readShape fuel depth Shape.u32 c with
          | .error e => .error e
          | .ok (nanos, c) =>
            match durationOf (some secs) (some nanos) with
            | .ok j => .ok (j, c)
            | .error f => dataAt f c
end

def readText (shape : Shape) (s : String) : Except Fault Json :=
  let c := Cursor.ofString s
  match readShape (4 * c.rest.length + 16) depthLimit shape c with
  | .error (f, _) => .error f
  | .ok (v, c) =>
    let c := c.skipBlank
    match c.rest with
    | [] => .ok v
    | _ => .error ⟨.malformed .trailingCharacters, some c.ahead⟩

def parse (s : String) : Except Fault Json := readText .any s

end Json

end TestConductor
