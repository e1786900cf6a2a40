import Mathlib.Data.List.Forall2
import Fulfilment.Ingest.Schema

/-!
Reading order rows by a header, against `referenceRow`, written from the rules. Trimming twice is
trimming once, so the codes are the trimmed cells.
-/

namespace Fulfilment

section MapM

variable {α β ε : Type} {f : α → Except ε β} {p : α → Bool}

theorem mapM_eq_error_of_find? {e : α → ε} (bad : ∀ a, p a = true → f a = .error (e a))
    (good : ∀ a, p a = false → ∃ b, f a = .ok b) :
    ∀ {l : List α} {a : α}, l.find? p = some a → l.mapM f = .error (e a) := by
  intro l
  induction l with
  | nil => intro a h; cases h
  | cons x xs ih =>
    intro a h
    rw [List.find?_cons] at h
    cases hx : p x with
    | true =>
      rw [hx] at h
      cases h
      rw [List.mapM_cons, bad x hx]
      rfl
    | false =>
      rw [hx] at h
      obtain ⟨b, hb⟩ := good x hx
      rw [List.mapM_cons, hb, ih h]
      rfl

theorem mapM_eq_ok_of_find? (good : ∀ a, p a = false → ∃ b, f a = .ok b) :
    ∀ {l : List α} {r : Except ε (List β)}, l.mapM f = r → l.find? p = none →
      ∃ bs, r = .ok bs ∧ List.Forall₂ (fun a b => f a = .ok b) l bs := by
  intro l
  induction l with
  | nil => intro r hm _; exact ⟨[], hm.symm, .nil⟩
  | cons x xs ih =>
    intro r hm h
    rw [List.find?_cons] at h
    cases hx : p x with
    | true => rw [hx] at h; cases h
    | false =>
      rw [hx] at h
      obtain ⟨b, hb⟩ := good x hx
      obtain ⟨bs, hbs, rel⟩ := ih rfl h
      refine ⟨b :: bs, ?_, .cons hb rel⟩
      rw [← hm, List.mapM_cons, hb, hbs]
      rfl

end MapM

end Fulfilment

namespace Fulfilment.CsvSchema

open Text

def missingColumn? (header : List String) : Option String :=
  requiredColumns.find? fun c => header.all fun h => trimBlank h ≠ c

/-- The trimmed cell of a row under the first header cell that names `column` once trimmed. -/
def cellUnder (header row : List String) (column : String) : String :=
  match header.findIdx? fun h => trimBlank h = column with
  | some i => trimBlank (row.getD i "")
  | none => ""

theorem trimBlank_cellUnder (header row : List String) (column : String) :
    trimBlank (cellUnder header row column) = cellUnder header row column := by
  unfold cellUnder
  split
  · exact trimBlank_trimBlank _
  · rfl

/-- A data row read against a header, by the rules in the order they apply: a row shorter than
the header, then the first blank code among tenant, seller, hub and SKU, then a quantity that
does not read; otherwise the order of the cells under the named columns. -/
def referenceRow (header row : List String) : Except RowRejection NewOrder :=
  let v := cellUnder header row
  if row.length < header.length then .error (.tooFewColumns header.length row.length)
  else
    match blank : ["tenant_id", "seller_id", "hub_id", "sku_id"].find? fun c => (v c).isEmpty with
    | some c => .error (.missingField c)
    | none =>
      have filled : ∀ c ∈ ["tenant_id", "seller_id", "hub_id", "sku_id"], (v c).isEmpty = false :=
        fun c hc => by simpa using List.find?_eq_none.1 blank c hc
      match Quantity.parse (v "quantity") with
      | .error _ => .error (.invalidQuantity (v "quantity"))
      | .ok q =>
        .ok { tenant := ⟨v "tenant_id", trimBlank_cellUnder .., filled _ (by simp)⟩
              seller := ⟨v "seller_id", trimBlank_cellUnder .., filled _ (by simp)⟩
              hub := ⟨v "hub_id", trimBlank_cellUnder .., filled _ (by simp)⟩
              sku := ⟨v "sku_id", trimBlank_cellUnder .., filled _ (by simp)⟩
              quantity := q }

theorem position?_eq_none_iff {header : List String} {c : String} :
    position? header c = none ↔ (header.all fun h => trimBlank h ≠ c) = true := by
  rw [position?, List.findIdx?_eq_none_iff, List.all_eq_true]
  simp

theorem exists_position?_of_named {header : List String} {c : String}
    (named : (header.all fun h => trimBlank h ≠ c) = false) : ∃ i, position? header c = some i := by
  cases hp : position? header c with
  | none => rw [position?_eq_none_iff.1 hp] at named; cases named
  | some i => exact ⟨i, rfl⟩

theorem ofHeader_of_missing {header : List String} {c : String} (h : missingColumn? header = some c) :
    ofHeader header = .error (.validation ("header is missing column " ++ c)) := by
  unfold ofHeader
  rw [mapM_eq_error_of_find? (e := fun c => .validation ("header is missing column " ++ c)) ?_ ?_ h]
  · rfl
  · intro a missing
    rw [position?_eq_none_iff.2 missing]
  · intro a named
    obtain ⟨i, hp⟩ := exists_position?_of_named named
    exact ⟨(a, i), by simp only [hp]⟩


theorem ofHeader_of_complete {header : List String} (h : missingColumn? header = none) :
    ∃ s, ofHeader header = .ok s ∧ s.width = header.length ∧
      List.Forall₂ (fun c p => p.1 = c ∧ position? header c = some p.2) requiredColumns s.positions := by
  unfold ofHeader
  generalize hm : (List.mapM _ requiredColumns : Except DomainError (List (String × Nat))) = r
  obtain ⟨ps, rfl, rel⟩ := mapM_eq_ok_of_find? (by
    intro a named
    obtain ⟨i, hp⟩ := exists_position?_of_named named
    exact ⟨(a, i), by simp only [hp]⟩) hm h
  refine ⟨⟨header.length, ps⟩, rfl, rfl, rel.imp fun c p hp => ?_⟩
  revert hp
  cases hc : position? header c with
  | none => intro e; cases e
  | some i => intro e; cases e; exact ⟨rfl, rfl⟩

theorem find?_positions {header : List String} :
    ∀ {cols : List String} {ps : List (String × Nat)},
      List.Forall₂ (fun c p => p.1 = c ∧ position? header c = some p.2) cols ps →
      ∀ {c : String}, c ∈ cols →
        ∃ i, position? header c = some i ∧ ps.find? (·.1 == c) = some (c, i) := by
  intro cols ps rel
  induction rel with
  | nil => intro c hc; cases hc
  | @cons a p as ps head _ ih =>
    intro c hc
    by_cases same : a = c
    · subst same
      obtain ⟨first, named⟩ := head
      refine ⟨p.2, named, ?_⟩
      rw [List.find?_cons, first, beq_self_eq_true]
      rw [← first]
    · obtain ⟨first, -⟩ := head
      have : (p.1 == c) = false := by rw [first]; exact beq_false_of_ne same
      rw [List.find?_cons, this]
      exact ih ((List.mem_cons.1 hc).resolve_left (Ne.symm same))


theorem field_eq_cellUnder {s : CsvSchema} {header row : List String}
    (rel : List.Forall₂ (fun c p => p.1 = c ∧ position? header c = some p.2) requiredColumns
      s.positions)
    (wide : header.length ≤ row.length) {c : String} (hc : c ∈ requiredColumns) :
    s.field row c = cellUnder header row c := by
  obtain ⟨i, named, found⟩ := find?_positions rel hc
  have hi : i < header.length := (List.findIdx?_eq_some_iff_getElem.1 named).1
  have cell : row[i]? = some row[i] := List.getElem?_eq_getElem (by omega)
  unfold field cellUnder
  rw [found, show header.findIdx? (fun h => trimBlank h = c) = position? header c from rfl, named]
  simp [cell]

theorem trimBlank_field (s : CsvSchema) (row : List String) (column : String) :
    trimBlank (s.field row column) = s.field row column := by
  unfold field
  split
  · exact trimBlank_trimBlank _
  · rfl

theorem code_eq (s : CsvSchema) (row : List String) (k : CodeKind) (column : String) :
    s.code row k column =
      if blank : (s.field row column).isEmpty then .error (.missingField column)
      else .ok ⟨s.field row column, trimBlank_field s row column, Bool.eq_false_iff.2 blank⟩ := by
  unfold code
  by_cases blank : (s.field row column).isEmpty = true
  · have refused : (trimBlank (s.field row column)).isEmpty = true := by
      rw [trimBlank_field]
      exact blank
    simp [Code.make, refused, blank]
  · rw [dif_neg blank, Code.make_text ⟨s.field row column, trimBlank_field s row column,
      Bool.eq_false_iff.2 blank⟩]

theorem extract_eq_reference {s : CsvSchema} {header : List String} (width : s.width = header.length)
    (rel : List.Forall₂ (fun c p => p.1 = c ∧ position? header c = some p.2) requiredColumns
      s.positions)
    (row : List String) : s.extract row = referenceRow header row := by
  unfold extract referenceRow
  rw [width]
  by_cases short : row.length < header.length
  · simp [short, throw, throwThe, MonadExceptOf.throw, bind, Except.bind]
  · have v : ∀ c ∈ requiredColumns, s.field row c = cellUnder header row c := fun c hc =>
      field_eq_cellUnder rel (by omega) hc
    simp only [short, if_false, code_eq, v "tenant_id" (by decide), v "seller_id" (by decide),
      v "hub_id" (by decide), v "sku_id" (by decide), v "quantity" (by decide)]
    -- the reference's match keeps which cell is blank, so it is split rather than rewritten
    symm
    split
    · rename_i c found
      by_cases h₁ : (cellUnder header row "tenant_id").isEmpty = true
      · simp [h₁] at found
        simp [← found, h₁, bind, Except.bind]
      by_cases h₂ : (cellUnder header row "seller_id").isEmpty = true
      · simp [h₁, h₂] at found
        simp [← found, h₁, h₂, bind, Except.bind]
      by_cases h₃ : (cellUnder header row "hub_id").isEmpty = true
      · simp [h₁, h₂, h₃] at found
        simp [← found, h₁, h₂, h₃, bind, Except.bind]
      by_cases h₄ : (cellUnder header row "sku_id").isEmpty = true
      · simp [h₁, h₂, h₃, h₄] at found
        simp [← found, h₁, h₂, h₃, h₄, bind, Except.bind]
      simp [h₁, h₂, h₃, h₄] at found
    · rename_i found
      have filled : ∀ c ∈ ["tenant_id", "seller_id", "hub_id", "sku_id"],
          ¬(cellUnder header row c).isEmpty = true := List.find?_eq_none.1 found
      simp only [filled "tenant_id" (by simp), filled "seller_id" (by simp),
        filled "hub_id" (by simp), filled "sku_id" (by simp), bind, Except.bind]
      cases Quantity.parse (cellUnder header row "quantity") <;> rfl

/-- A header is refused for the first required column it does not name; otherwise the schema
it gives reads every row as the reference does. -/
theorem reads_rows_as_reference (header : List String) :
    (∀ c, missingColumn? header = some c →
      ofHeader header = .error (.validation ("header is missing column " ++ c))) ∧
    (missingColumn? header = none →
      ∃ s, ofHeader header = .ok s ∧ ∀ row, s.extract row = referenceRow header row) := by
  refine ⟨fun _ h => ofHeader_of_missing h, fun h => ?_⟩
  obtain ⟨s, hs, width, rel⟩ := ofHeader_of_complete h
  exact ⟨s, hs, extract_eq_reference width rel⟩

/-- A header without `sku_id` is refused for it, and one that names the columns out of order,
padded and with an extra column, reads rows by the reference. -/
theorem reads_rows_of_sample_headers :
    (missingColumn? ["tenant_id", "seller_id", "hub_id", "quantity"] = some "sku_id" ∧
      ofHeader ["tenant_id", "seller_id", "hub_id", "quantity"] =
        .error (.validation ("header is missing column " ++ "sku_id"))) ∧
    (missingColumn? [" quantity", "sku_id", "hub_id", "seller_id\t", "tenant_id", "note"] = none ∧
      ∃ s, ofHeader [" quantity", "sku_id", "hub_id", "seller_id\t", "tenant_id", "note"] = .ok s ∧
        ∀ row, s.extract row =
          referenceRow [" quantity", "sku_id", "hub_id", "seller_id\t", "tenant_id", "note"] row) := by
  have missing :
      missingColumn? ["tenant_id", "seller_id", "hub_id", "quantity"] = some "sku_id" := by
    decide +kernel
  have complete :
      missingColumn? [" quantity", "sku_id", "hub_id", "seller_id\t", "tenant_id", "note"] =
        none := by
    decide +kernel
  exact ⟨⟨missing, (reads_rows_as_reference _).1 _ missing⟩, complete,
    (reads_rows_as_reference _).2 complete⟩

end Fulfilment.CsvSchema
