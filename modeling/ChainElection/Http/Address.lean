import ChainElection.Text.Percent
import ChainElection.Text.Numeral

/-!
Which web addresses can be asked.

An address is usable if it is absolute, its scheme is `http` or `https`, and it
names a host: a domain without forbidden characters, an address of four
numbers, or one of eight groups in square brackets. A port is a number of 16
bits. What stands behind the host is never a hindrance.

* `Address.isUsable` is the whole test.
-/

namespace ChainElection.Address

/-- Is the character an ASCII letter? -/
def isLetter (c : Char) : Bool := ('a' ≤ c && c ≤ 'z') || ('A' ≤ c && c ≤ 'Z')

/-- Is the character an ASCII digit? -/
def isDigit (c : Char) : Bool := '0' ≤ c && c ≤ '9'

/-- The address without what is ignored in it: control codes and spaces around it, tabs and line ends
anywhere. -/
def stripped (s : List Char) : List Char :=
  let isOuter (c : Char) : Bool := c.toNat ≤ 0x20
  let s := ((s.dropWhile isOuter).reverse.dropWhile isOuter).reverse
  s.filter fun c => c ≠ '\t' && c ≠ '\n' && c ≠ '\r'

/-- The scheme in lower case and what stands behind its colon. -/
def scheme? (s : List Char) : Option (List Char × List Char) :=
  let isPart (c : Char) : Bool := isLetter c || isDigit c || c == '+' || c == '-' || c == '.'
  match s with
  | [] => none
  | c :: _ =>
    if isLetter c then
      match s.dropWhile isPart with
      | ':' :: r => some ((s.takeWhile isPart).map Char.toLower, r)
      | _ => none
    else none

/-- The host with its port, and without the user in front of them. -/
def authority (s : List Char) : List Char :=
  let isEnd (c : Char) : Bool := c == '/' || c == '\\' || c == '?' || c == '#'
  let s := s.dropWhile fun c => c == '/' || c == '\\'
  let a := s.takeWhile fun c => !isEnd c
  (a.reverse.takeWhile (· ≠ '@')).reverse

/-- Splits a host from the colon and the port behind it. -/
def hostAndPort (inBrackets : Bool) : List Char → List Char × Option (List Char)
  | [] => ([], none)
  | c :: r =>
    if c = ':' ∧ inBrackets = false then ([], some r)
    else
      let (h, p) := hostAndPort (if c = '[' then true else if c = ']' then false else inBrackets) r
      (c :: h, p)

/-- Is this a port, or none? -/
def isPort : Option (List Char) → Bool
  | none => true
  | some [] => true
  | some (c :: r) =>
    (c :: r).all isDigit && (Numeral.readNat Numeral.max16 (c :: r)).isOk

/-- May the character stand in a domain? -/
def isDomainChar (c : Char) : Bool :=
  0x20 < c.toNat && c.toNat ≠ 0x7f && !("#%/:<>?@[\\]^|".toList.contains c)

/-- The parts of a text between its dots. -/
def labels : List Char → List (List Char)
  | [] => [[]]
  | c :: r =>
    match labels r with
    | [] => [[c]]
    | l :: ls => if c = '.' then [] :: l :: ls else (c :: l) :: ls

/-- The value of digits in a base. -/
def valueIn (base : Nat) (s : List Char) : Option Nat :=
  s.foldl (fun acc c => do
    let n ← acc
    let d ← Percent.hexDigit? c
    if d < base then some (n * base + d) else none) (some 0)

/-- A number of a host, in base 10, 8 or 16. -/
def hostNumber? (s : List Char) : Option Nat :=
  match s with
  | [] => none
  | '0' :: 'x' :: r => valueIn 16 r
  | '0' :: 'X' :: r => valueIn 16 r
  | ['0'] => some 0
  | '0' :: r => valueIn 8 r
  | s => valueIn 10 s

/-- Are these the numbers of an address? All but the last have one byte, the last has the rest. -/
def areHostNumbers (ns : List Nat) : Bool :=
  ns.length ≤ 4 && ns.dropLast.all (· ≤ 255) &&
    match ns.getLast? with
    | some n => n < 1 <<< (8 * (5 - ns.length))
    | none => false

/-- A host's labels, without one empty label behind them. -/
def hostLabels (s : List Char) : List (List Char) :=
  let ls := labels s
  if ls.length > 1 ∧ ls.getLast? = some [] then ls.dropLast else ls

/-- Is the last label written like a number? -/
def endsInNumber (ls : List (List Char)) : Bool :=
  match ls.getLast? with
  | none => false
  | some l =>
    (!l.isEmpty && l.all isDigit) ||
      match l with
      | '0' :: x :: r => (x == 'x' || x == 'X') && (valueIn 16 r).isSome
      | _ => false

/-- Is this a domain, or an address of four numbers? -/
def isDomain (s : List Char) : Bool :=
  match Utf8.decode (Percent.resolve s) with
  | .error _ => false
  | .ok cs =>
    let ls := hostLabels cs
    !cs.isEmpty && cs.all isDomainChar &&
      (!endsInNumber ls ||
        match ls.mapM hostNumber? with
        | some ns => areHostNumbers ns
        | none => false)

/-- The parts of a text between its colons. -/
def groups : List Char → List (List Char)
  | [] => [[]]
  | c :: r =>
    match groups r with
    | [] => [[c]]
    | l :: ls => if c = ':' then [] :: l :: ls else (c :: l) :: ls

/-- How many groups a part of a bracketed address makes. A dotted quad makes two and stands last. -/
def groupSize (isLast : Bool) (g : List Char) : Option Nat :=
  if 1 ≤ g.length ∧ g.length ≤ 4 ∧ g.all (fun c => (Percent.hexDigit? c).isSome) then some 1
  else
    let ls := labels g
    if isLast ∧ ls.length = 4 ∧ ls.all (fun l => !l.isEmpty && l.all isDigit &&
        (l.length = 1 || l.head? ≠ some '0') && (valueIn 10 l).any (· ≤ 255)) then some 2
    else none

/-- The number of groups that parts make together. -/
def groupCount (last : Bool) : List (List Char) → Option Nat
  | [] => some 0
  | [g] => groupSize last g
  | g :: r => do pure ((← groupSize false g) + (← groupCount last r))

/-- Splits a text at its first double colon. -/
def splitDouble : List Char → Option (List Char × List Char)
  | ':' :: ':' :: r => some ([], r)
  | c :: r => (splitDouble r).map fun p => (c :: p.1, p.2)
  | [] => none

/-- The number of groups of a text that may be empty. -/
def partCount (last : Bool) (s : List Char) : Option Nat :=
  if s.isEmpty then some 0 else groupCount last (groups s)

/-- Is this an address of eight groups, of which a double colon stands for those that are zero? -/
def isBracketed (s : List Char) : Bool :=
  match splitDouble s with
  | none => groupCount true (groups s) == some 8
  | some (a, b) =>
    match partCount false a, partCount true b with
    | some m, some n => m + n < 8
    | _, _ => false

/-- Is this a host? -/
def isHost (s : List Char) : Bool :=
  match s with
  | '[' :: r => r.getLast? == some ']' && isBracketed r.dropLast
  | s => isDomain s

/-- Can the address be asked? -/
def isUsable (url : String) : Bool :=
  match scheme? (stripped url.toList) with
  | none => false
  | some (scheme, rest) =>
    let (host, port) := hostAndPort false (authority rest)
    (scheme == "http".toList || scheme == "https".toList) && isHost host && isPort port

end ChainElection.Address
