import Fulfilment.Store.Storage

/-!
A put that succeeds is read back. Both stores keep objects as a list of entries by name, and
a write either replaces the entries under its name or adds one after the others; either way a
lookup of that name finds the new body and a lookup of any other name finds what it found
before. The file store also walks the directories above a file, which a write leaves as they
were, so the walk that found the file's place finds the file.
-/

namespace Fulfilment

section Entries

variable {α β : Type} [BEq α] [LawfulBEq α] (l : List (α × β)) (a : α) (v : β)

abbrev replaceAt : List (α × β) := l.map fun x => if x.1 == a then (a, v) else x

theorem find?_replaceAt_self (named : l.any (·.1 == a)) :
    (replaceAt l a v).find? (·.1 == a) = some (a, v) := by
  induction l with
  | nil => simp at named
  | cons x xs ih =>
    by_cases hx : x.1 = a
    · simp [replaceAt, hx]
    · have other : (x.1 == a) = false := by simpa using hx
      simp only [List.any_cons, other, Bool.false_or] at named
      simpa [replaceAt, hx] using ih named

theorem find?_replaceAt_of_ne {a' : α} (ne : a' ≠ a) :
    (replaceAt l a v).find? (·.1 == a') = l.find? (·.1 == a') := by
  induction l with
  | nil => rfl
  | cons x xs ih =>
    simp only [replaceAt, List.map_cons, List.find?_cons] at ih ⊢
    rw [ih]
    by_cases hx : x.1 = a
    · have other : (a == a') = false := by simpa using Ne.symm ne
      simp [hx, other]
    · simp [hx]

theorem find?_append_self (unnamed : l.find? (·.1 == a) = none) :
    (l ++ [(a, v)]).find? (·.1 == a) = some (a, v) := by
  simp [List.find?_append, unnamed]

theorem find?_append_of_ne {a' : α} (ne : a' ≠ a) :
    (l ++ [(a, v)]).find? (·.1 == a') = l.find? (·.1 == a') := by
  cases h : l.find? (·.1 == a') <;> simp [List.find?_append, h, Ne.symm ne]

end Entries

theorem ObjectStore.get_put (s : ObjectStore) (bucket key : String) (body : List UInt8) :
    (s.put bucket key body).get bucket key = .ok body := by
  unfold put
  by_cases named : s.objects.any (·.1 == (bucket, key))
  · rw [if_pos named, get, find?_replaceAt_self _ _ _ named]
  · have unnamed : s.objects.find? (·.1 == (bucket, key)) = none := by
      rw [List.find?_eq_none]
      intro x hx same
      exact named (List.any_eq_true.2 ⟨x, hx, same⟩)
    rw [if_neg named, get, find?_append_self _ _ _ unnamed]

namespace FileTree

theorem node?_of_ne_nil {t : FileTree} {p : List String} (ne : p ≠ []) :
    t.node? p = (t.entries.find? (·.1 == p)).map (·.2) := by
  simp [node?, ne]

theorem ne_nil_of_node? {t : FileTree} {path : List String} {x : Option FileNode}
    (at_path : x = t.node? path) (notDir : x ≠ some .dir) : path ≠ [] := by
  rintro rfl
  exact notDir (by simpa [node?] using at_path)

theorem node?_congr {t t' : FileTree} {p : List String}
    (h : t'.entries.find? (·.1 == p) = t.entries.find? (·.1 == p)) : t'.node? p = t.node? p := by
  simp [node?, h]

theorem walk_go_ok {t t' : FileTree} :
    ∀ {ps : List (List String)} {x : Option FileNode} (ne : ps ≠ []),
      (∀ p ∈ ps.dropLast, t'.node? p = t.node? p) → walk.go t ps = .ok x →
      x = t.node? (ps.getLast ne) ∧ walk.go t' ps = .ok (t'.node? (ps.getLast ne))
  | [], _, ne, _, _ => absurd rfl ne
  | [p], x, _, _, h => by
    rw [walk.go.eq_2] at h ⊢
    by_cases long : lastTooLong p
    · simp [long] at h
    · simp only [long, Bool.false_eq_true, if_false, Except.ok.injEq] at h ⊢
      exact ⟨h.symm, rfl⟩
  | p :: q :: rest, x, _, same, h => by
    rw [walk.go.eq_3 _ _ _ (by simp)] at h ⊢
    by_cases long : lastTooLong p
    · simp [long] at h
    · have on_way : t'.node? p = t.node? p := same p (by simp)
      simp only [long, Bool.false_eq_true, if_false, on_way] at h ⊢
      cases hp : t.node? p with
      | none => simp [hp] at h
      | some node =>
        cases node with
        | file => simp [hp] at h
        | dir =>
          simp only [hp] at h ⊢
          rw [List.getLast_cons (by simp)]
          exact walk_go_ok (by simp) (fun p' hp' => same p' (by simp_all)) h

theorem walk_ok {t t' : FileTree} {path : List String} {x : Option FileNode}
    (same : ∀ p, p ≠ path → t'.node? p = t.node? p) (h : t.walk path = .ok x) :
    x = t.node? path ∧ t'.walk path = .ok (t'.node? path) := by
  unfold walk at h ⊢
  cases hlen : path.length with
  | zero =>
    have : path = [] := List.eq_nil_of_length_eq_zero hlen
    subst this
    simp only [List.length_nil, List.range_zero, List.map_nil, walk.go.eq_1, Except.ok.injEq] at h ⊢
    exact ⟨h.symm, rfl⟩
  | succ m =>
    -- the places on the way are the proper prefixes of the path, the last place is the path
    have leads : (List.range (m + 1)).map (fun k => path.take (k + 1)) =
        (List.range m).map (fun k => path.take (k + 1)) ++ [path] := by
      rw [List.range_succ, List.map_append]
      simp [← hlen]
    dsimp only at h ⊢
    rw [hlen, leads] at h
    rw [leads] at ⊢
    have proper : ∀ p ∈ ((List.range m).map (fun k => path.take (k + 1)) ++ [path]).dropLast,
        t'.node? p = t.node? p := by
      simp only [List.dropLast_concat, List.mem_map, List.mem_range]
      rintro _ ⟨k, lt, rfl⟩
      apply same
      intro e
      have := congrArg List.length e
      simp only [List.length_take] at this
      omega
    simpa using walk_go_ok (by simp) proper h

theorem write_ok {t t' : FileTree} {path : List String} {e : PathEnd} {body : List UInt8}
    (h : t.write path e body = .ok t') :
    e = .name ∧ t'.node? path = some (.file body) ∧ ∀ p, p ≠ path → t'.node? p = t.node? p := by
  unfold write at h
  cases hw : t.walk path with
  | error f => simp [hw, bind, Except.bind] at h
  | ok x =>
    have unchanged : ∀ p, p ≠ path → t.node? p = t.node? p := fun _ _ => rfl
    have at_path := (walk_ok unchanged hw).1
    simp only [hw, bind, Except.bind] at h
    rcases x with _ | _ | b0 <;> cases e <;>
      simp only [throw, throwThe, MonadExceptOf.throw, reduceCtorEq] at h
    · -- no entry at the path: the file is added after the others
      simp only [pure, Except.pure, Except.ok.injEq] at h
      subst h
      have ne : path ≠ [] := ne_nil_of_node? at_path (by simp)
      have fresh : t.entries.find? (·.1 == path) = none := by
        simpa [node?, ne] using at_path.symm
      refine ⟨rfl, ?_, fun p hp => node?_congr (find?_append_of_ne _ _ _ hp)⟩
      simp [node?, ne, find?_append_self _ _ _ fresh]
    · -- a file at the path: its entries are replaced
      simp only [pure, Except.pure, Except.ok.injEq] at h
      subst h
      have ne : path ≠ [] := ne_nil_of_node? at_path (by simp)
      have found : ∃ a, t.entries.find? (·.1 == path) = some (a, .file b0) := by
        simpa [node?, ne] using at_path.symm
      obtain ⟨a, ha⟩ := found
      have hit := List.find?_some ha
      have named : t.entries.any (·.1 == path) :=
        List.any_eq_true.2 ⟨(a, .file b0), List.mem_of_find?_eq_some ha, hit⟩
      refine ⟨rfl, ?_, fun p hp => node?_congr (find?_replaceAt_of_ne _ _ _ hp)⟩
      rw [node?_of_ne_nil ne, find?_replaceAt_self _ _ _ named]
      rfl

theorem lookup_write {t t' : FileTree} {path : List String} {e : PathEnd} {body : List UInt8}
    (h : t.write path e body = .ok t') : t'.lookup path false = .ok (.file body) := by
  obtain ⟨-, at_path, others⟩ := write_ok h
  have walked : ∃ x, t.walk path = .ok x := by
    unfold write at h
    cases hw : t.walk path with
    | error f => simp [hw, bind, Except.bind] at h
    | ok x => exact ⟨x, rfl⟩
  obtain ⟨x, hx⟩ := walked
  simp [lookup, (walk_ok others hx).2, at_path, bind, Except.bind, pure, Except.pure]

end FileTree

theorem FileStore.get_put {s : FileStore} {bucket key : String} {body : List UInt8}
    (h : (s.put bucket key body).2 = .ok ()) : (s.put bucket key body).1.get bucket key = .ok body := by
  unfold put at h ⊢
  cases hl : locate bucket key with
  | error err => simp [hl] at h
  | ok loc =>
    obtain ⟨path, e⟩ := loc
    simp only [hl] at h ⊢
    by_cases nul : path.dropLast.any hasNul
    · simp [nul] at h
    · simp only [nul, Bool.false_eq_true, if_false] at h ⊢
      rcases hm : s.tree.mkdirAll path.dropLast with ⟨t, _ | f⟩
      · simp only [hm] at h ⊢
        by_cases nul' : path.any hasNul
        · simp [nul'] at h
        · simp only [nul', Bool.false_eq_true, if_false] at h ⊢
          cases hw : t.write path e body with
          | error f => simp [hw] at h
          | ok t' =>
            obtain ⟨rfl, -, -⟩ := FileTree.write_ok hw
            simp [get, find, hl, nul', FileTree.lookup_write hw, bind, Except.bind, pure,
              Except.pure]
      · simp [hm] at h

theorem ObjectStorage.get_put {s : ObjectStorage} {bucket key : String} {body : List UInt8}
    (h : (s.put bucket key body).2 = .ok ()) : (s.put bucket key body).1.get bucket key = .ok body := by
  cases s with
  | memory s => exact ObjectStore.get_put s bucket key body
  | files s =>
    rcases hp : s.put bucket key body with ⟨s', r⟩
    have stored := FileStore.get_put (show (s.put bucket key body).2 = .ok () by
      simpa [put, hp] using h)
    simp only [put, hp] at stored ⊢
    exact stored

end Fulfilment
