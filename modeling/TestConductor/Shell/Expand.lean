import TestConductor.Shell.Pattern
import TestConductor.Shell.Format
/-! # Expanded words

What expanding a word gives before it becomes fields: a sequence of characters, each marked as
quoted or not and, when it came from an expansion outside double quotes, with the region of that
expansion; marks where quotes stood, which keep an empty quoted word as a field; and the breaks
between the parameters of `"$@"`.
-/
namespace TestConductor

namespace Shell

/-- An element of an expanded word. -/
inductive Elem where
  /-- A character, whether it is quoted, and the region of the expansion it came from. -/
  | ch (c : Char) (quoted : Bool) (region : Option Nat)
  /-- Where quotes stood. -/
  | mark
  /-- A break between two parameters of `"$@"`. -/
  | brk
  /-- The start of a region; `nul` for the parameters of `"$@"`. -/
  | span (id : Nat) (nul : Bool)
  deriving DecidableEq, Inhabited

def elemsOf (s : String) (quoted : Bool) (region : Option Nat) : List Elem :=
  s.toList.map fun c => .ch c quoted region

/-- The state of field splitting. -/
structure SplitState where
  fields : List (List Elem) := []
  cur : List Elem := []
  /-- The region whose separators are being absorbed, and whether only blanks were seen. -/
  absorbing : Option (Nat × Bool) := none
  lastNul : Bool := false

/-- The character that separates the parameters of an unquoted `$*` or `$@` when `IFS` is
empty: it cannot occur in the shell's text, and splitting treats it as a blank separator. -/
def fieldBreak : Char := Char.ofNat 0

def isIfsBlank (c : Char) : Bool := c == ' ' || c == '\t' || c == '\n' || c == fieldBreak

def splitStep (ifs : List Char) (st : SplitState) (e : Elem) : SplitState :=
  let ifs := fieldBreak :: ifs
  let emit (st : SplitState) : SplitState := { st with fields := st.fields ++ [st.cur], cur := [] }
  let plain (st : SplitState) (c : Char) (r : Nat) : SplitState :=
    if ifs.contains c then
      let blank := isIfsBlank c
      if st.cur.isEmpty && blank then st
      else { emit st with absorbing := some (r, blank) }
    else { st with cur := st.cur ++ [e] }
  match e with
  | .span _ nul => { st with lastNul := nul, absorbing := none }
  | .brk => { emit st with absorbing := none }
  | .mark => { st with cur := st.cur ++ [e], absorbing := none }
  | .ch _ _ none => { st with cur := st.cur ++ [e], absorbing := none }
  | .ch c _ (some r) =>
    match st.absorbing with
    | some (r', blanksOnly) =>
      if r' != r || !ifs.contains c then plain { st with absorbing := none } c r
      else if isIfsBlank c then st
      else if blanksOnly then { st with absorbing := some (r, false) }
      else plain { st with absorbing := none } c r
    | none => plain st c r

def splitFields (ifs : List Char) (es : List Elem) : List (List Elem) :=
  let st := es.foldl (splitStep ifs) {}
  if st.lastNul || !st.cur.isEmpty then st.fields ++ [st.cur] else st.fields

def fieldText (es : List Elem) : String :=
  String.ofList (es.filterMap fun
    | .ch c _ _ => some c
    | _ => none)

def fieldPattern (es : List Elem) : List Char :=
  es.flatMap fun
    | .ch c true _ => ['\\', c]
    | .ch '\\' false _ => ['\\', '\\']
    | .ch c false _ => [c]
    | _ => []

def fieldHasMeta (es : List Elem) : Bool :=
  es.any fun
    | .ch c false _ => c == '*' || c == '?' || c == '['
    | _ => false

/-! ## File names -/

def splitSlashes : List Char → List Char → List (List Char) → List (List Char)
  | [], cur, acc => (acc ++ [cur])
  | '\\' :: c :: rest, cur, acc => splitSlashes rest (cur ++ ['\\', c]) acc
  | '/' :: rest, cur, acc => splitSlashes rest [] (acc ++ [cur])
  | c :: rest, cur, acc => splitSlashes rest (cur ++ [c]) acc

def entriesOf (paths : List String) (dir : String) : List String :=
  let pre := if dir == "/" then "/" else dir ++ "/"
  (paths.filterMap fun p =>
    if p.startsWith pre && p != dir then
      let rest := String.ofList (p.toList.drop pre.length)
      if rest.isEmpty || rest.contains '/' then none else some rest
    else none).eraseDups

/-- The paths that pattern parts match under a directory: `shown` is the path as written so far,
`dir` the directory it names. -/
def globParts (paths : List String) : List (List Char) → String → String → List String
  | [], shown, dir => if paths.contains dir then [shown] else []
  | part :: rest, shown, dir =>
    let join (s n : String) : String := if s.isEmpty then n else if s.endsWith "/" then s ++ n else s ++ "/" ++ n
    let up : String := match (dir.splitOn "/").dropLast with
      | [] | [""] => "/"
      | parts => "/".intercalate parts
    let under (n : String) : String :=
      if n == "." then dir else if n == ".." then up
      else if dir == "/" then "/" ++ n else dir ++ "/" ++ n
    if part.isEmpty then
      globParts paths rest (if shown.isEmpty then shown else shown ++ "/") dir
    else if !hasMeta part then
      let n := String.ofList (unescape part)
      globParts paths rest (join shown n) (under n)
    else
      let names := entriesOf paths dir
      let names := if part.head? == some '.' then "." :: ".." :: names else names
      let hits := names.filter fun n =>
        (!n.startsWith "." || part.head? == some '.') && matchChars (part.length + 1) part n.toList
      hits.flatMap fun n => globParts paths rest (join shown n) (under n)

def globPaths (paths : List String) (cwd : String) (pattern : List Char) : List String :=
  let parts := splitSlashes pattern [] []
  let found := match parts with
    | [] :: rest => globParts paths rest "/" "/"
    | _ => globParts paths parts "" cwd
  found.mergeSort fun a b => compare a b != .gt

def globField (paths : List String) (cwd : String) (noglob : Bool) (es : List Elem) : List String :=
  if noglob || !fieldHasMeta es then [fieldText es]
  else
    match globPaths paths cwd (fieldPattern es) with
    | [] => [fieldText es]
    | hits => hits

/-! ## Trimming -/

def dropPrefixMatch (pattern : List Char) (longest : Bool) (value : String) : String :=
  let cs := value.toList
  let ks := List.range (cs.length + 1)
  let ks := if longest then ks.reverse else ks
  match ks.find? fun k => matchChars (pattern.length + 1) pattern (cs.take k) with
  | some k => String.ofList (cs.drop k)
  | none => value

def dropSuffixMatch (pattern : List Char) (longest : Bool) (value : String) : String :=
  let cs := value.toList
  let ks := List.range (cs.length + 1)
  let ks := if longest then ks else ks.reverse
  match ks.find? fun k => matchChars (pattern.length + 1) pattern (cs.drop k) with
  | some k => String.ofList (cs.take k)
  | none => value

/-! ## Intervals of `sleep` -/

/-- Nanoseconds in a time interval: a non-negative number with an optional unit `s`, `m`, `h`
or `d`; none when malformed, and infinity as none of nanoseconds with `true`. -/
def interval? (s : String) : Option (Option Nat) :=
  let (x, rest, any, _) := readDouble s.toList
  let unit : Option Float := match rest with
    | [] | ['s'] => some 1
    | ['m'] => some 60
    | ['h'] => some 3600
    | ['d'] => some 86400
    | _ => none
  match unit with
  | none => none
  | some u =>
    if !any || x.isNaN || x < 0 then none
    else
      let ns := x * u * 1000000000
      if ns.isInf then some none else some (some ns.ceil.toUInt64.toNat)

/-- How `sleep` fares with its arguments: the nanoseconds it sleeps (none for ever), or its
status and what it writes to standard error. -/
def sleepTime (args : List String) : Except (Nat × String) (Option Nat) :=
  let hint := "Try 'sleep --help' for more information.\n"
  let isOpt (a : String) : Bool := a.startsWith "-" && a.length > 1
  let (before, after) := args.span (· != "--")
  let opts := before.filter isOpt
  let operands := before.filter (fun a => !isOpt a) ++ after.drop 1
  match opts.head? with
  | some "--help" | some "--version" => .ok (some 0)
  | some o =>
    if o.startsWith "--" then .error (1, "sleep: unrecognized option '" ++ o ++ "'\n" ++ hint)
    else .error (1, "sleep: invalid option -- '" ++ String.ofList ((o.toList.drop 1).take 1) ++ "'\n" ++ hint)
  | none =>
    if operands.isEmpty then .error (1, "sleep: missing operand\n" ++ hint)
    else
      let bad := operands.filter fun a => (interval? a).isNone
      if !bad.isEmpty then
        .error (1, String.join (bad.map fun a => "sleep: invalid time interval '" ++ a ++ "'\n") ++ hint)
      else
        operands.foldl (fun acc a => match acc, interval? a with
          | .ok (some t), some (some u) => .ok (some (t + u))
          | .ok _, _ => .ok none
          | e, _ => e) (.ok (some 0))

end Shell

end TestConductor
