/-!
JSON values. A number is a whole number (non-negative ones read as unsigned 64-bit, negative
ones as signed 64-bit) or a binary64 kept by its bits. An object is a list of members; objects
read from text keep their keys sorted and distinct (a later duplicate replaces the earlier),
objects built for output keep the order they were built in.
-/

namespace Fulfilment.Json

/-- A JSON number. -/
inductive Number where
  /-- A whole number: `0 ≤ i < 2^64` or `-2^63 ≤ i < 0`. -/
  | int (i : Int)
  /-- A finite binary64, by its bits. -/
  | float (bits : UInt64)
  deriving DecidableEq, Repr, Inhabited

/-- A JSON value. -/
inductive Value where
  | null
  | bool (b : Bool)
  | num (n : Number)
  | str (s : String)
  | arr (items : List Value)
  | obj (members : List (String × Value))
  deriving Repr, Inhabited, BEq

namespace Value

def int (i : Int) : Value := .num (.int i)

def nat (n : Nat) : Value := .num (.int n)

def strs (xs : List String) : Value := .arr (xs.map .str)

/-- The member `k` of an object, the last one when several have that key. -/
def field? (v : Value) (k : String) : Option Value :=
  match v with
  | .obj ms => (ms.reverse.find? (·.1 == k)).map (·.2)
  | _ => none

def getStr? : Value → Option String
  | .str s => some s
  | _ => none

def getInt? : Value → Option Int
  | .num (.int i) => some i
  | _ => none

def getBool? : Value → Option Bool
  | .bool b => some b
  | _ => none

def getArr? : Value → Option (List Value)
  | .arr xs => some xs
  | _ => none

def getObj? : Value → Option (List (String × Value))
  | .obj ms => some ms
  | _ => none

def isNull : Value → Bool
  | .null => true
  | _ => false

end Value

/-- Inserts a member into a key-sorted member list, replacing one with the same key. -/
def insertSorted {α : Type} (k : String) (v : α) : List (String × α) → List (String × α)
  | [] => [(k, v)]
  | (k', v') :: rest =>
    if k < k' then (k, v) :: (k', v') :: rest
    else if k = k' then (k, v) :: rest
    else (k', v') :: insertSorted k v rest

/-- Members whose keys strictly increase: sorted, each key once. -/
def KeysSorted {α : Type} (ms : List (String × α)) : Prop :=
  ms.Pairwise fun a b => a.1 < b.1

theorem mem_insertSorted {α : Type} {k : String} {v : α} {m : String × α} :
    ∀ {ms : List (String × α)}, m ∈ insertSorted k v ms → m = (k, v) ∨ m ∈ ms
  | [], h => by simpa [insertSorted] using h
  | (k', v') :: rest, h => by
    unfold insertSorted at h
    split at h
    · simpa using h
    · split at h
      · exact (List.mem_cons.1 h).imp_right (List.mem_cons_of_mem _)
      · rcases List.mem_cons.1 h with rfl | h
        · exact .inr List.mem_cons_self
        · exact (mem_insertSorted h).imp_right (List.mem_cons_of_mem _)

theorem KeysSorted.insertSorted {α : Type} {k : String} {v : α} :
    ∀ {ms : List (String × α)}, KeysSorted ms → KeysSorted (insertSorted k v ms)
  | [], _ => List.pairwise_singleton _ _
  | (k', v') :: rest, sorted => by
    obtain ⟨above, rest_sorted⟩ := List.pairwise_cons.1 sorted
    unfold Json.insertSorted
    by_cases before : k < k'
    · rw [if_pos before]
      refine List.pairwise_cons.2 ⟨fun m hm => ?_, sorted⟩
      rcases List.mem_cons.1 hm with rfl | hm
      · exact before
      · exact String.lt_trans before (above m hm)
    rw [if_neg before]
    by_cases same : k = k'
    · rw [if_pos same]
      subst same
      exact List.pairwise_cons.2 ⟨above, rest_sorted⟩
    · rw [if_neg same]
      have after : k' < k := Decidable.byContradiction fun h =>
        same (String.le_antisymm (String.not_lt.1 h) (String.not_lt.1 before))
      refine List.pairwise_cons.2 ⟨fun m hm => ?_, KeysSorted.insertSorted rest_sorted⟩
      rcases mem_insertSorted hm with rfl | hm
      · exact after
      · exact above m hm

mutual
def Value.sortKeys : Value → Value
  | .arr xs => .arr (sortItems xs)
  | .obj ms => .obj ((sortMembers ms).mergeSort fun a b => decide (a.1 ≤ b.1))
  | v => v

def sortItems : List Value → List Value
  | [] => []
  | x :: xs => Value.sortKeys x :: sortItems xs

def sortMembers : List (String × Value) → List (String × Value)
  | [] => []
  | (k, v) :: ms => (k, Value.sortKeys v) :: sortMembers ms
end

end Fulfilment.Json
