/-! # Shell patterns

Matching text against the patterns of `case`, of `${name#pattern}` and of file-name
expansion. In a pattern `*` matches any run of characters, `?` any one character, and a bracket
expression one character of a set: `[abc]`, ranges `[a-z]`, classes such as `[[:digit:]]`, and
`[!...]` for the complement. A `[` without its closing `]` is a plain character. A backslash
makes the next character plain; quoted text reaches the matcher as backslash-escaped characters.
-/
namespace TestConductor

namespace Shell

def inClass (name : String) (c : Char) : Bool :=
  let n := c.toNat
  match name with
  | "alnum" => c.isAlphanum
  | "alpha" => c.isAlpha
  | "blank" => c == ' ' || c == '\t'
  | "cntrl" => n < 32 || n == 127
  | "digit" => c.isDigit
  | "graph" => 33 ≤ n && n ≤ 126
  | "lower" => c.isLower
  | "print" => 32 ≤ n && n ≤ 126
  | "punct" => 33 ≤ n && n ≤ 126 && !c.isAlphanum
  | "space" => c == ' ' || (9 ≤ n && n ≤ 13)
  | "upper" => c.isUpper
  | "xdigit" => c.isDigit || ('a' ≤ c && c ≤ 'f') || ('A' ≤ c && c ≤ 'F')
  | _ => false

def className? (p : List Char) : Option (String × List Char) :=
  match p with
  | ':' :: rest =>
    let name := rest.takeWhile (· != ':')
    match rest.drop name.length with
    | ':' :: ']' :: after =>
      let n := String.ofList name
      if ["alnum", "alpha", "blank", "cntrl", "digit", "graph", "lower", "print", "punct", "space",
          "upper", "xdigit"].contains n then some (n, after) else none
    | _ => none
  | _ => none

/-- Reads the members of a bracket expression, the first of which is `c`, and tells whether
`chr` is among them; gives the pattern after the closing `]`, or none when there is none. -/
def bracketMembers (chr : Char) : Nat → Char → List Char → Bool → Option (Bool × List Char)
  | 0, _, _, _ => none
  | fuel + 1, c, p, found =>
    let step : Option (Bool × List Char) :=
      if c == '[' then
        match className? p with
        | some (n, after) => some (found || inClass n chr, after)
        | none => none
      else none
    match step with
    | some (found, after) =>
      match after with
      | ']' :: rest => some (found, rest)
      | d :: rest => bracketMembers chr fuel d rest found
      | [] => none
    | none =>
      let (c, p) := if c == '\\' then
          match p with
          | d :: rest => (d, rest)
          | [] => (c, p)
        else (c, p)
      let (found, p) := match p with
        | '-' :: hi :: rest =>
          if hi == ']' then (found || chr == c, p)
          else
            let (hi, rest) := if hi == '\\' then
                match rest with
                | d :: r => (d, r)
                | [] => (hi, rest)
              else (hi, rest)
            (found || (c ≤ chr && chr ≤ hi), rest)
        | _ => (found || chr == c, p)
      match p with
      | ']' :: rest => some (found, rest)
      | d :: rest => bracketMembers chr fuel d rest found
      | [] => none

/-- Matches a bracket expression after its `[` against a character: whether it matched, and the
pattern after it; none when the expression has no closing `]`. -/
def bracket (p : List Char) (chr : Char) : Option (Bool × List Char) :=
  let (invert, p) := match p with
    | '!' :: rest => (true, rest)
    | _ => (false, p)
  match p with
  | c :: rest =>
    match bracketMembers chr (p.length + 1) c rest false with
    | some (found, after) => some (found != invert, after)
    | none => none
  | [] => none

def matchChars : Nat → List Char → List Char → Bool
  | 0, _, _ => false
  | _ + 1, [], s => s.isEmpty
  | fuel + 1, '\\' :: p, s =>
    match p with
    | c :: p' =>
      match s with
      | d :: s' => c == d && matchChars fuel p' s'
      | [] => false
    | [] =>
      match s with
      | '\\' :: s' => matchChars fuel [] s'
      | _ => false
  | fuel + 1, '?' :: p, s =>
    match s with
    | _ :: s' => matchChars fuel p s'
    | [] => false
  | fuel + 1, '*' :: p, s =>
    let p := p.dropWhile (· == '*')
    (List.range (s.length + 1)).any fun k => matchChars fuel p (s.drop k)
  | fuel + 1, '[' :: p, s =>
    match s with
    | [] => false
    | chr :: s' =>
      match bracket p chr with
      | some (found, after) => found && matchChars fuel after s'
      | none => chr == '[' && matchChars fuel p s'
  | fuel + 1, c :: p, s =>
    match s with
    | d :: s' => c == d && matchChars fuel p s'
    | [] => false

def patternMatches (pattern text : String) : Bool :=
  matchChars (pattern.length + 1) pattern.toList text.toList

def hasMeta : List Char → Bool
  | '\\' :: _ :: rest => hasMeta rest
  | c :: rest => c == '*' || c == '?' || c == '[' || hasMeta rest
  | [] => false

/-- A pattern's text with its escapes removed: the text it matches when it has no special
character. -/
def unescape : List Char → List Char
  | '\\' :: c :: rest => c :: unescape rest
  | c :: rest => c :: unescape rest
  | [] => []

end Shell

end TestConductor
