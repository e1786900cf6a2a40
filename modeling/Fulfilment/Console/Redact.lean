import Fulfilment.Json.Value

/-!
What the console hides of values that differ from run to run. Answers are written with object
keys in byte order. Instants that the library stamps itself are hidden as `<ts>` in the members
`created_at`, `updated_at` and `published_at`. Identifiers that the library made up are
replaced, in the written answer, by `#1`, `#2`, ... in order of first appearance: a UUID of the
answer is made up when the request does not mention it, hyphenated in either case or as 32 hex
digits in a row.
-/

namespace Fulfilment.Console

open Json

def stampedKeys : List String := ["created_at", "updated_at", "published_at"]

mutual
/-- Hides stamped instants; the members named `skip` are left as they are. -/
def hideTimes (skip : Option String) : Value → Value
  | .arr xs => .arr (hideItems skip xs)
  | .obj ms => .obj (hideMembers skip ms)
  | v => v

def hideItems (skip : Option String) : List Value → List Value
  | [] => []
  | x :: xs => hideTimes skip x :: hideItems skip xs

def hideMembers (skip : Option String) : List (String × Value) → List (String × Value)
  | [] => []
  | (k, v) :: ms =>
    let v' :=
      if some k = skip then v
      else
        match v with
        | .str _ => if stampedKeys.contains k then .str "<ts>" else v
        | _ => hideTimes skip v
    (k, v') :: hideMembers skip ms
end

def isHex (c : Char) : Bool :=
  ('0' ≤ c && c ≤ '9') || ('a' ≤ c && c ≤ 'f') || ('A' ≤ c && c ≤ 'F')

def isLowerHex (c : Char) : Bool := ('0' ≤ c && c ≤ '9') || ('a' ≤ c && c ≤ 'f')

def isHyphenated (digit : Char → Bool) (cs : List Char) : Bool :=
  cs.length = 36 &&
    (List.range 36).all fun i =>
      let c := cs.getD i ' '
      if i = 8 || i = 13 || i = 18 || i = 23 then c = '-' else digit c

def lower (cs : List Char) : List Char := cs.map Char.toLower

def hyphenate (cs : List Char) : List Char :=
  cs.take 8 ++ '-' :: (cs.drop 8).take 4 ++ '-' :: (cs.drop 12).take 4 ++ '-' ::
    (cs.drop 16).take 4 ++ '-' :: cs.drop 20

/-- The UUIDs a text mentions, lowercase and hyphenated: hyphenated ones of either case and runs
of exactly 32 hex digits, neither touching another hex digit. -/
def mentioned : Nat → Bool → List Char → List (List Char)
  | 0, _, _ => []
  | _ + 1, _, [] => []
  | fuel + 1, prevHex, cs@(c :: rest) =>
    let window := cs.take 36
    let after := cs.drop 36
    if !prevHex && isHyphenated isHex window && !(after.head?.map isHex).getD false then
      lower window :: mentioned fuel true after
    else if !prevHex && isHex c then
      let run := cs.takeWhile isHex
      let tail := cs.dropWhile isHex
      let found := if run.length = 32 then [hyphenate (lower run)] else []
      found ++ mentioned fuel true tail
    else mentioned fuel (isHex c) rest

/-- Replaces made-up UUIDs by labels; `labels` are the ones given so far, in order. -/
def relabel (known : List (List Char)) : Nat → Bool → List Char → List (List Char) → List Char × List (List Char)
  | 0, _, cs, labels => (cs, labels)
  | _ + 1, _, [], labels => ([], labels)
  | fuel + 1, prevHex, cs@(c :: rest), labels =>
    let window := cs.take 36
    let after := cs.drop 36
    if !prevHex && isHyphenated isLowerHex window && !(after.head?.map isHex).getD false &&
        !known.contains window then
      let (n, labels) :=
        match labels.idxOf? window with
        | some i => (i + 1, labels)
        | none => (labels.length + 1, labels ++ [window])
      let (out, labels) := relabel known fuel true after labels
      ('#' :: (toString n).toList ++ out, labels)
    else
      let (out, labels) := relabel known fuel (isHex c) rest labels
      (c :: out, labels)

def labelUuids (request answer : String) : String :=
  let known := mentioned (request.length + 1) false request.toList
  String.ofList (relabel known (answer.length + 1) false answer.toList []).1

end Fulfilment.Console
