/-!
Socket addresses, `a.b.c.d:port` or `[addr%scope]:port`, read strictly and written in canonical
form: lowercase hex, the longest run of zero groups as `::`, an IPv4-mapped address dotted.
-/

namespace Fulfilment.Net

/-- A socket address. -/
inductive SocketAddr where
  /-- Four octets and a port. -/
  | v4 (octets : List Nat) (port : Nat)
  /-- Eight 16-bit groups, a port and a scope (zero when none is given). -/
  | v6 (groups : List Nat) (port : Nat) (scope : Nat)
  deriving DecidableEq, Repr

/-- A reader: a value and the rest of the text, or nothing. -/
abbrev Reader (α : Type) := List Char → Option (α × List Char)

def digitValue (radix : Nat) (c : Char) : Option Nat :=
  if '0' ≤ c ∧ c ≤ '9' then some (c.toNat - 48)
  else if radix = 16 ∧ 'a' ≤ c ∧ c ≤ 'f' then some (c.toNat - 87)
  else if radix = 16 ∧ 'A' ≤ c ∧ c ≤ 'F' then some (c.toNat - 55)
  else none

def spanDigits (radix : Nat) : List Char → List Nat × List Char
  | [] => ([], [])
  | c :: cs =>
    match digitValue radix c with
    | some d => let (ds, rest) := spanDigits radix cs; (d :: ds, rest)
    | none => ([], c :: cs)

/-- A number in base `radix` of at most `maxDigits` digits (if given) and at most `bound`;
with `zeroPrefix` false, a number of two or more digits may not start with zero. -/
def number (radix : Nat) (maxDigits : Option Nat) (zeroPrefix : Bool) (bound : Nat) : Reader Nat :=
  fun cs =>
    let (ds, rest) := spanDigits radix cs
    let values := (List.range ds.length).map fun k => (ds.take (k + 1)).foldl (fun a d => a * radix + d) 0
    if ds.isEmpty then none
    else if values.any (· > bound) then none
    else if (match maxDigits with | some m => decide (ds.length > m) | none => false) then none
    else if !zeroPrefix ∧ ds.head? = some 0 ∧ ds.length > 1 then none
    else some (values.getLastD 0, rest)

def expect (c : Char) : List Char → Option (List Char)
  | d :: rest => if d = c then some rest else none
  | [] => none

def separated {α : Type} (sep : Char) (index : Nat) (item : Reader α) : Reader α :=
  fun cs => if index = 0 then item cs else (expect sep cs).bind item

def ipv4 : Reader (List Nat) := fun cs => do
  let octet := number 10 (some 3) false 255
  let (a, cs) ← separated '.' 0 octet cs
  let (b, cs) ← separated '.' 1 octet cs
  let (c, cs) ← separated '.' 2 octet cs
  let (d, cs) ← separated '.' 3 octet cs
  return ([a, b, c, d], cs)

/-- Up to `left` colon-separated groups, the first being group `index`; the last two may be
an IPv4 address (then the flag is set). Stops before the first group that does not read. -/
def groupsFrom : (left index : Nat) → List Char → List Nat × Bool × List Char
  | 0, _, cs => ([], false, cs)
  | left + 1, index, cs =>
    let v4 := if left ≥ 1 then separated ':' index ipv4 cs else none
    match v4 with
    | some ([a, b, c, d], rest) => ([a * 256 + b, c * 256 + d], true, rest)
    | _ =>
      match separated ':' index (number 16 (some 4) true 65535) cs with
      | some (g, rest) =>
        let (gs, flag, rest') := groupsFrom left (index + 1) rest
        (g :: gs, flag, rest')
      | none => ([], false, cs)

def groups (limit : Nat) (cs : List Char) : List Nat × Bool × List Char := groupsFrom limit 0 cs

/-- An IPv6 address: eight groups, or a head and a tail around `::`. -/
def ipv6 : Reader (List Nat) := fun cs => do
  let (head, headV4, rest) := groups 8 cs
  if head.length = 8 then return (head, rest)
  if headV4 then none
  let rest ← expect ':' rest
  let rest ← expect ':' rest
  let (tail, _, rest) := groups (8 - (head.length + 1)) rest
  return (head ++ List.replicate (8 - head.length - tail.length) 0 ++ tail, rest)

def port : Reader Nat := fun cs => (expect ':' cs).bind (number 10 none true 65535)

def socketV4 : Reader SocketAddr := fun cs => do
  let (ip, cs) ← ipv4 cs
  let (p, cs) ← port cs
  return (.v4 ip p, cs)

def socketV6 : Reader SocketAddr := fun cs => do
  let cs ← expect '[' cs
  let (ip, cs) ← ipv6 cs
  let (scope, cs) := ((expect '%' cs).bind (number 10 none true (Nat.pow 2 32 - 1))).getD (0, cs)
  let cs ← expect ']' cs
  let (p, cs) ← port cs
  return (.v6 ip p scope, cs)

def SocketAddr.parse (s : String) : Option SocketAddr :=
  match (socketV4 s.toList).orElse fun _ => socketV6 s.toList with
  | some (a, []) => some a
  | _ => none

def syntaxError : String := "invalid socket address syntax"

def hexText (n : Nat) : String := String.ofList (Nat.toDigits 16 n)

def groupsText (gs : List Nat) : String := ":".intercalate (gs.map hexText)

/-- The first longest run of zero groups: its start and length. -/
def zeroRun (gs : List Nat) : Nat × Nat :=
  let step (acc : (Nat × Nat) × (Nat × Nat) × Nat) (g : Nat) :=
    let ((bestStart, bestLen), (curStart, curLen), i) := acc
    if g = 0 then
      let cur := if curLen = 0 then (i, 1) else (curStart, curLen + 1)
      let best := if cur.2 > bestLen then cur else (bestStart, bestLen)
      (best, cur, i + 1)
    else ((bestStart, bestLen), (0, 0), i + 1)
  (gs.foldl step ((0, 0), (0, 0), 0)).1

def ipv6Text (gs : List Nat) : String :=
  match gs with
  | [0, 0, 0, 0, 0, 0xffff, ab, cd] =>
    "::ffff:" ++ ".".intercalate ([ab / 256, ab % 256, cd / 256, cd % 256].map toString)
  | _ =>
    let (start, len) := zeroRun gs
    if len > 1 then groupsText (gs.take start) ++ "::" ++ groupsText (gs.drop (start + len))
    else groupsText gs

def SocketAddr.render : SocketAddr → String
  | .v4 ip p => ".".intercalate (ip.map toString) ++ ":" ++ toString p
  | .v6 ip p scope =>
    "[" ++ ipv6Text ip ++ (if scope = 0 then "" else "%" ++ toString scope) ++ "]:" ++ toString p

end Fulfilment.Net
