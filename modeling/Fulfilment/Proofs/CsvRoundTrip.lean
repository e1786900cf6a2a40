import Fulfilment.Csv.Writer

/-!
Reading back what the writer wrote. The reader is followed byte by byte over the written text
of one field, then of one record, then of records: a field leaves the reader where a comma ends
the field and a line feed ends the record (`Closable`), and a record leaves it between records
with the record read. So the records of a text the writer wrote are the records written, each of
at least one field, unless the text starts with a UTF-8 byte order mark, which the reader drops.
-/

namespace Fulfilment.Csv

@[simp] theorem isBreak_comma : isBreak comma = false := rfl
@[simp] theorem isBreak_quote : isBreak quote = false := rfl
@[simp] theorem isBreak_lineFeed : isBreak 10 = true := rfl
@[simp] theorem comma_beq_quote : (comma == quote) = false := rfl
@[simp] theorem lineFeed_beq_quote : ((10 : UInt8) == quote) = false := rfl
@[simp] theorem lineFeed_beq_comma : ((10 : UInt8) == comma) = false := rfl

namespace Cursor

/-- The reader is inside field `f`, after fields `fs` (last first) and records `acc` (last first),
in a place where a comma ends the field and a line feed ends the record. -/
def Closable (c : Cursor) (f : List UInt8) (fs : List (List UInt8)) (acc : List Record) : Prop :=
  c.field = f.reverse ∧ c.fields = fs ∧ c.records = acc ∧
    (c.pos = .plain ∨ c.pos = .quoteInQuoted ∨ (c.pos = .fieldStart ∧ f = []))

theorem Closable.step_comma {c : Cursor} {f : List UInt8} {fs : List (List UInt8)}
    {acc : List Record} (h : c.Closable f fs acc) :
    c.step comma = ⟨.fieldStart, [], f :: fs, acc⟩ := by
  obtain ⟨c_pos, c_field, c_fields, c_records⟩ := c
  obtain ⟨rfl, rfl, rfl, pos⟩ := h
  rcases pos with rfl | rfl | ⟨rfl, rfl⟩ <;> simp [step, startField, endField]

theorem Closable.step_lineFeed {c : Cursor} {f : List UInt8} {fs : List (List UInt8)}
    {acc : List Record} (h : c.Closable f fs acc) :
    c.step 10 = ⟨.betweenRecords, [], [], (f :: fs).reverse :: acc⟩ := by
  obtain ⟨c_pos, c_field, c_fields, c_records⟩ := c
  obtain ⟨rfl, rfl, rfl, pos⟩ := h
  rcases pos with rfl | rfl | ⟨rfl, rfl⟩ <;> simp [step, startField, endRecord, endField]

theorem foldl_plain (xs : List UInt8) (plain : ∀ b ∈ xs, b ≠ comma ∧ isBreak b = false)
    (field : List UInt8) (fs : List (List UInt8)) (acc : List Record) :
    xs.foldl step ⟨.plain, field, fs, acc⟩ = ⟨.plain, xs.reverse ++ field, fs, acc⟩ := by
  induction xs generalizing field with
  | nil => rfl
  | cons b rest ih =>
    obtain ⟨notComma, notBreak⟩ := plain b (by simp)
    have hb : step ⟨.plain, field, fs, acc⟩ b = ⟨.plain, b :: field, fs, acc⟩ := by
      simp [step, notBreak, notComma, push]
    rw [List.foldl_cons, hb, ih (fun x hx => plain x (by simp [hx]))]
    simp

theorem foldl_escaped (f : List UInt8) (field : List UInt8) (fs : List (List UInt8))
    (acc : List Record) :
    (f.flatMap escapeByte).foldl step ⟨.quoted, field, fs, acc⟩ =
      ⟨.quoted, f.reverse ++ field, fs, acc⟩ := by
  induction f generalizing field with
  | nil => rfl
  | cons b rest ih =>
    rw [List.flatMap_cons, List.foldl_append]
    by_cases hq : b = quote
    · subst hq
      rw [escapeByte_quote]
      simp only [List.foldl_cons, List.foldl_nil]
      rw [show step (step ⟨.quoted, field, fs, acc⟩ quote) quote = ⟨.quoted, quote :: field, fs, acc⟩
        from rfl, ih]
      simp
    · have hb : (escapeByte b).foldl step ⟨.quoted, field, fs, acc⟩ = ⟨.quoted, b :: field, fs, acc⟩ := by
        simp [escapeByte, hq, step, push]
      rw [hb, ih]
      simp

theorem foldl_writeField (f : List UInt8) (fs : List (List UInt8)) (acc : List Record) :
    ((writeField f).foldl step ⟨.fieldStart, [], fs, acc⟩).Closable f fs acc := by
  unfold writeField
  split
  · -- quoted: the opening quote, the escaped bytes, the closing quote
    simp only [List.cons_append, List.foldl_cons, List.foldl_append, List.foldl_nil]
    have hopen : step ⟨.fieldStart, [], fs, acc⟩ quote = ⟨.quoted, [], fs, acc⟩ := rfl
    rw [hopen, foldl_escaped]
    exact ⟨by simp [step], rfl, rfl, .inr (.inl rfl)⟩
  · next plain =>
    -- plain: no comma, quote or line break anywhere in the field
    have clean : ∀ b ∈ f, b ≠ comma ∧ b ≠ quote ∧ isBreak b = false := by
      intro b hb
      have := List.any_eq_false.1 (Bool.eq_false_iff.2 plain) b hb
      simp only [Bool.or_eq_true, beq_iff_eq, not_or] at this
      exact ⟨this.1.1, this.1.2, by simpa using this.2⟩
    cases f with
    | nil => exact ⟨rfl, rfl, rfl, .inr (.inr ⟨rfl, rfl⟩)⟩
    | cons b rest =>
      obtain ⟨notComma, notQuote, notBreak⟩ := clean b (by simp)
      have hfirst : step ⟨.fieldStart, [], fs, acc⟩ b = ⟨.plain, [b], fs, acc⟩ := by
        simp [step, startField, notQuote, notComma, notBreak, push]
      rw [List.foldl_cons, hfirst,
        foldl_plain rest (fun x hx => ⟨(clean x (by simp [hx])).1, (clean x (by simp [hx])).2.2⟩)]
      exact ⟨by simp, rfl, rfl, .inl rfl⟩

theorem foldl_writeFields (fields : List (List UInt8)) (nonempty : fields ≠ [])
    (done : List (List UInt8)) (acc : List Record) :
    ([comma].intercalate (fields.map writeField) ++ [10]).foldl step ⟨.fieldStart, [], done, acc⟩ =
      ⟨.betweenRecords, [], [], (done.reverse ++ fields) :: acc⟩ := by
  induction fields generalizing done with
  | nil => exact absurd rfl nonempty
  | cons f rest ih =>
    cases rest with
    | nil =>
      simp only [List.map_cons, List.map_nil, List.intercalate_singleton, List.foldl_append,
        List.foldl_cons, List.foldl_nil]
      rw [(foldl_writeField f done acc).step_lineFeed]
      simp
    | cons g rest =>
      simp only [List.map_cons, List.intercalate_cons_cons, List.append_assoc, List.foldl_append,
        List.foldl_cons, List.foldl_nil]
      rw [(foldl_writeField f done acc).step_comma]
      have := ih (by simp) (f :: done)
      simp only [List.map_cons, List.foldl_append, List.foldl_cons, List.foldl_nil] at this
      rw [this]
      simp

theorem records_step (c : Cursor) (b : UInt8) :
    (c.step b).records = c.records ∨ ∃ r, r ≠ [] ∧ (c.step b).records = r :: c.records := by
  unfold step startField endRecord endField push
  repeat' split
  all_goals simp

theorem records_foldl (bs : List UInt8) {c : Cursor} (formed : ∀ r ∈ c.records, r ≠ []) :
    ∀ r ∈ (bs.foldl step c).records, r ≠ [] := by
  induction bs generalizing c with
  | nil => exact formed
  | cons b rest ih =>
    apply ih
    rcases records_step c b with same | ⟨r', hr', ended⟩
    · rwa [same]
    · rw [ended]
      rintro r (_ | ⟨_, hr⟩)
      · exact hr'
      · exact formed r hr

theorem step_betweenRecords {b : UInt8} (notBreak : isBreak b = false) (acc : List Record) :
    step ⟨.betweenRecords, [], [], acc⟩ b = step ⟨.fieldStart, [], [], acc⟩ b := by
  -- every branch of starting a field sets the position
  simp [step, notBreak, startField, endField, push]

end Cursor

theorem writeField_head {f : List UInt8} {b : UInt8} (h : (writeField f).head? = some b) :
    isBreak b = false := by
  unfold writeField at h
  split at h
  · simp only [List.cons_append, List.head?_cons, Option.some.injEq] at h
    subst h
    rfl
  · next plain =>
    cases f with
    | nil => simp at h
    | cons x rest =>
      simp only [List.head?_cons, Option.some.injEq] at h
      subst h
      have := List.any_eq_false.1 (Bool.eq_false_iff.2 plain) x (by simp)
      simp only [Bool.or_eq_true, not_or] at this
      simpa using this.2

theorem writeFields_head {r : Record} {b : UInt8} {bs : List UInt8}
    (h : [comma].intercalate (r.map writeField) = b :: bs) : isBreak b = false := by
  cases r with
  | nil => simp at h
  | cons f rest =>
    cases hf : writeField f with
    | nil =>
      cases rest with
      | nil => simp [hf] at h
      | cons g rest =>
        simp only [List.map_cons, List.intercalate_cons_cons, hf, List.nil_append,
          List.cons_append, List.cons.injEq] at h
        rw [← h.1]
        rfl
    | cons x xs =>
      have hx : b = x := by
        cases rest with
        | nil => simp_all
        | cons g rest => simp_all [List.intercalate_cons_cons]
      exact writeField_head (hx ▸ hf ▸ rfl : (writeField f).head? = some b)

theorem writeFields_eq_nil {f : List UInt8} {rest : List (List UInt8)}
    (empty : ([comma].intercalate ((f :: rest).map writeField)).isEmpty) : rest = [] ∧ f = [] := by
  cases rest with
  | nil =>
    simp only [List.map_cons, List.map_nil, List.intercalate_singleton, List.isEmpty_iff] at empty
    refine ⟨rfl, ?_⟩
    unfold writeField at empty
    split at empty
    · simp at empty
    · exact empty
  | cons g rest => simp [List.intercalate_cons_cons] at empty

theorem foldl_writeRecord {r : Record} (nonempty : r ≠ []) (acc : List Record) :
    (writeRecord r).foldl Cursor.step ⟨.betweenRecords, [], [], acc⟩ =
      ⟨.betweenRecords, [], [], r :: acc⟩ := by
  dsimp only [writeRecord]
  split
  · next empty =>
    -- a record written as nothing is one empty field, written as two quotes
    obtain ⟨f, rest, rfl⟩ := List.exists_cons_of_ne_nil nonempty
    obtain ⟨rfl, rfl⟩ := writeFields_eq_nil empty
    rfl
  · next body =>
    -- the body starts with no line break, so it starts a field as at the start of one
    obtain ⟨b, bs, hbody⟩ := List.exists_cons_of_ne_nil (by simpa using body)
    have := Cursor.foldl_writeFields r nonempty [] acc
    rw [hbody] at this ⊢
    rw [List.cons_append, List.foldl_cons, Cursor.step_betweenRecords (writeFields_head hbody)]
    rw [List.cons_append, List.foldl_cons] at this
    simpa using this

theorem foldl_write {rs : List Record} (nonempty : ∀ r ∈ rs, r ≠ []) (acc : List Record) :
    (write rs).foldl Cursor.step ⟨.betweenRecords, [], [], acc⟩ =
      ⟨.betweenRecords, [], [], rs.reverse ++ acc⟩ := by
  induction rs generalizing acc with
  | nil => rfl
  | cons r rest ih =>
    rw [write_cons, List.foldl_append, foldl_writeRecord (nonempty r (by simp)),
      ih (fun x hx => nonempty x (by simp [hx]))]
    simp

theorem records_ne_nil (bs : List UInt8) : ∀ r ∈ records bs, r ≠ [] := by
  have formed := Cursor.records_foldl (dropMark bs) (c := { pos := .betweenRecords }) (by simp)
  unfold records Cursor.finish
  split
  · simpa using formed
  · simp only [Cursor.endRecord, Cursor.endField, List.reverse_cons, List.mem_append,
      List.mem_reverse, List.mem_singleton]
    rintro r (hr | rfl)
    · exact formed r hr
    · simp

theorem dropMark_eq (bs : List UInt8) :
    dropMark bs = if bs.take 3 = [0xEF, 0xBB, 0xBF] then bs.drop 3 else bs := by
  unfold dropMark
  split
  · simp
  · next unmarked =>
    rw [if_neg]
    intro mark
    apply unmarked (bs.drop 3)
    calc bs = bs.take 3 ++ bs.drop 3 := (List.take_append_drop 3 bs).symm
      _ = _ := by rw [mark]; rfl

theorem dropMark_append_lineFeed (xs t : List UInt8) :
    dropMark (xs ++ 10 :: t) = dropMark (xs ++ [10]) ++ t := by
  rw [dropMark_eq, dropMark_eq]
  match xs with
  | a :: b :: c :: rest =>
    simp only [List.cons_append, List.take_succ_cons, List.take_zero, List.drop_succ_cons,
      List.drop_zero]
    split <;> simp
  | [] => simp
  | [_] => simp
  | [_, _] => simp

theorem dropMark_write_cons (r : Record) (rs : List Record) :
    dropMark (write (r :: rs)) = dropMark (writeRecord r) ++ write rs := by
  rw [write_cons, writeRecord, List.append_assoc, List.singleton_append, dropMark_append_lineFeed]

theorem records_write {rs : List Record} (nonempty : ∀ r ∈ rs, r ≠ [])
    (unmarked : dropMark (write rs) = write rs) : records (write rs) = rs := by
  rw [records, unmarked, foldl_write nonempty]
  simp [Cursor.finish]

theorem records_write_of_read (bs : List UInt8) {first : Record} {rs : List Record}
    (first_ne : first ≠ []) (read : ∀ r ∈ rs, r ∈ records bs)
    (unmarked : dropMark (writeRecord first) = writeRecord first) :
    records (write (first :: rs)) = first :: rs := by
  refine records_write ?_ ?_
  · rintro r (_ | ⟨_, hr⟩)
    · exact first_ne
    · exact records_ne_nil bs r (read r hr)
  · rw [dropMark_write_cons, unmarked, write_cons]

end Fulfilment.Csv
