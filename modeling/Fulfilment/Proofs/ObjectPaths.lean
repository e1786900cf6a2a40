import Mathlib.Data.String.Basic
import Fulfilment.Ingest.Quarantine
import Fulfilment.Proofs.ObjectStore

/-!
Where the file store puts objects: every object it accepts lies below its bucket's directory,
and a quarantine key names exactly the bucket's `errors` directory and one name in it.
-/

namespace Fulfilment

/-! ### Splitting at slashes -/

open String in
theorem splitOnAux_slash (s : String) (b i : Pos.Raw) (r : List String) :
    splitOnAux s "/" b i 0 r = splitAux s (· == '/') b i r := by
  have sep : (0 : Pos.Raw).get "/" = '/' := rfl
  have step : (0 : Pos.Raw).next "/" = ⟨1⟩ := rfl
  have sepEnd : Pos.Raw.atEnd "/" ⟨1⟩ = true := rfl
  -- the separator is one character, so a match is found at once and the walk is the one that
  -- splits at the characters equal to it
  fun_induction splitAux s (· == '/') b i r with
  | case1 b i r h =>
    rw [splitOnAux, if_pos h]
  | case2 b i r h _ hp i' ih =>
    have slash : i.get s = '/' := beq_iff_eq.1 hp
    have back : (i.next s).unoffsetBy ⟨1⟩ = i := by
      have one : '/'.utf8Size = 1 := rfl
      simp only [Pos.Raw.next, slash, Pos.Raw.unoffsetBy]
      ext
      simp [one]
    rw [splitOnAux, if_neg h, sep, if_pos hp]
    simp only [step, sepEnd, if_true, back]
    exact ih
  | case3 b i r h _ hp ih =>
    have unshift : i.unoffsetBy 0 = i := by
      simp only [Pos.Raw.unoffsetBy]
      ext
      simp
    rw [splitOnAux, if_neg h, sep, if_neg hp, unshift]
    exact ih

theorem splitOn_slash (s : String) :
    s.splitOn "/" = (s.toList.splitOn '/').map String.ofList := by
  rw [String.splitOn, if_neg (by decide), splitOnAux_slash, List.splitOn_eq_splitOnP]
  exact String.splitToList_of_valid s _

theorem not_mem_of_mem_splitOn {c : Char} {l seg : List Char} (h : seg ∈ l.splitOn c) :
    c ∉ seg := by
  induction l generalizing seg with
  | nil =>
    simp only [List.splitOn_nil, List.mem_singleton] at h
    simp [h]
  | cons x xs ih =>
    rw [List.splitOn_cons_eq_if_modifyHead] at h
    obtain ⟨first, rest, parts⟩ := List.exists_cons_of_ne_nil (List.splitOn_ne_nil c xs)
    split at h
    · simp only [List.mem_cons] at h
      rcases h with rfl | h
      · simp
      · exact ih h
    · rename_i other
      rw [parts] at h
      simp only [List.modifyHead_cons, List.mem_cons] at h
      rcases h with rfl | h
      · have : c ∉ first := ih (by simp [parts])
        simp only [List.mem_cons, not_or]
        exact ⟨fun e => other (by simp [e]), this⟩
      · exact ih (by simp [parts, h])

theorem splitOn_of_refused {p : String}
    (h : (p.isEmpty || p.startsWith "/" || p = "." || p.startsWith "./") = true) :
    ∃ rest, p.toList.splitOn '/' = [] :: rest ∨ p.toList.splitOn '/' = ['.'] :: rest := by
  simp only [Bool.or_eq_true, String.startsWith_string_iff, decide_eq_true_eq] at h
  rcases h with ((empty | ⟨t, root⟩) | dot) | ⟨t, dot_slash⟩
  · refine ⟨[], .inl ?_⟩
    simp [String.isEmpty_iff.1 empty]
  · refine ⟨t.splitOn '/', .inl ?_⟩
    rw [← root]
    simp [List.splitOn_cons_eq_if_modifyHead]
  · exact ⟨[], .inr (by simp [dot, List.splitOn_cons_eq_if_modifyHead])⟩
  · refine ⟨t.splitOn '/', .inr ?_⟩
    rw [← dot_slash]
    simp [List.splitOn_cons_eq_if_modifyHead]

theorem last_part_of_endsWith_slash {p : String} (h : p.endsWith "/" = true) :
    (p.toList.splitOn '/').getLast? = some [] := by
  rw [String.endsWith_eq_endsWith_toSlice, String.Slice.endsWith_string_iff] at h
  obtain ⟨t, ht⟩ := h
  simp only [String.copy_toSlice] at ht
  rw [← ht]
  simp [List.splitOn_append_cons_self]

/-! ### Names -/

/-- A name a path can be made of: not empty, not `.` or `..`, and without a slash. -/
def NormalName (n : String) : Prop := n ≠ "" ∧ n ≠ "." ∧ n ≠ ".." ∧ '/' ∉ n.toList

instance (n : String) : Decidable (NormalName n) := inferInstanceAs (Decidable (_ ∧ _ ∧ _ ∧ _))

/-- The parts of a relative path between slashes, without the empty ones and `.`: the names a
file system reads the path as. -/
def components (p : String) : List String :=
  ((p.toList.splitOn '/').map String.ofList).filter fun s => s ≠ "" ∧ s ≠ "."

theorem first_part {c : Char} {rest : List Char} (hc : c ≠ '/') (not_dot : ¬(c = '.' ∧ rest = []))
    (not_dot_slash : ¬(c = '.' ∧ rest.head? = some '/')) :
    ∃ first tail, (c :: rest).splitOn '/' = first :: tail ∧ first ≠ [] ∧ first ≠ ['.'] := by
  obtain ⟨first, tail, parts⟩ := List.exists_cons_of_ne_nil (List.splitOn_ne_nil '/' rest)
  refine ⟨c :: first, tail, ?_, List.cons_ne_nil _ _, ?_⟩
  · rw [List.splitOn_cons_eq_if_modifyHead, if_neg (by simpa using hc), parts]
    rfl
  · intro single
    simp only [List.cons.injEq] at single
    obtain ⟨rfl, rfl⟩ := single
    -- a `.` followed by nothing or by a slash is refused, so the rest starts with another name
    cases rest with
    | nil => exact not_dot ⟨rfl, rfl⟩
    | cons d rest =>
      by_cases hd : d = '/'
      · exact not_dot_slash ⟨rfl, by simp [hd]⟩
      · rw [List.splitOn_cons_eq_if_modifyHead, if_neg (by simpa using hd)] at parts
        obtain ⟨f, t, hft⟩ := List.exists_cons_of_ne_nil (List.splitOn_ne_nil '/' rest)
        rw [hft] at parts
        simp at parts

/-- A path that starts with a name: its first part between slashes is a name, so the path
starts neither at the root nor with `.`. -/
def StartsWithName (p : String) : Prop :=
  ∃ first rest, p.splitOn "/" = first :: rest ∧ NormalName first

theorem names_of_pathNames {p : String} {ns : List String} (h : pathNames p = some ns) :
    p ≠ "" ∧ StartsWithName p ∧ ns ≠ [] ∧ (∀ n ∈ ns, NormalName n) ∧ ns = components p := by
  unfold pathNames at h
  split at h
  · exact absurd h (by simp)
  · rename_i relative
    simp only [Bool.or_eq_true, String.startsWith_string_iff, decide_eq_true_eq, not_or] at relative
    obtain ⟨⟨⟨nonempty, not_root⟩, not_dot⟩, not_dot_slash⟩ := relative
    have same : (p.splitOn "/").filter (fun s => s ≠ "" ∧ s ≠ ".") = components p := by
      rw [splitOn_slash]
      rfl
    dsimp only at h
    rw [same] at h
    split at h
    · exact absurd h (by simp)
    · rename_i no_up
      simp only [Option.some.injEq] at h
      subst h
      have names : ∀ n ∈ components p, NormalName n := by
        intro n hn
        have up : n ≠ ".." := fun e => no_up (by simpa [← e] using hn)
        simp only [components, List.mem_filter, List.mem_map, decide_eq_true_eq] at hn
        obtain ⟨⟨seg, hseg, rfl⟩, ne_empty, ne_dot⟩ := hn
        exact ⟨ne_empty, ne_dot, up, by simpa using not_mem_of_mem_splitOn hseg⟩
      -- the first part of the path is neither empty nor `.`, so it is kept
      obtain ⟨first, tail, parts, ne_nil, ne_dot⟩ : ∃ first tail,
          p.toList.splitOn '/' = first :: tail ∧ first ≠ [] ∧ first ≠ ['.'] := by
        cases hp : p.toList with
        | nil =>
          have empty : p = "" := String.toList_inj.1 (by simpa using hp)
          exact absurd (by simp [empty]) nonempty
        | cons c rest =>
          have hc : c ≠ '/' := fun e => not_root (by simp [hp, e])
          have dot : ¬(c = '.' ∧ rest = []) := fun ⟨e, r⟩ =>
            not_dot (by rw [← String.toList_inj, hp, e, r]; rfl)
          have dot_slash : ¬(c = '.' ∧ rest.head? = some '/') := by
            rintro ⟨rfl, hr⟩
            cases rest with
            | nil => simp at hr
            | cons d rest => exact not_dot_slash (by simp_all)
          exact first_part hc dot dot_slash
      have kept : String.ofList first ∈ components p := by
        have named : String.ofList first ≠ "" ∧ String.ofList first ≠ "." := by
          refine ⟨fun e => ne_nil ?_, fun e => ne_dot ?_⟩
          · simpa using congrArg String.toList e
          · simpa using congrArg String.toList e
        simp [components, parts, named]
      refine ⟨fun e => nonempty (by simp [e]), ⟨String.ofList first, tail.map String.ofList,
        by rw [splitOn_slash, parts]; rfl, names _ kept⟩, List.ne_nil_of_mem kept, names, rfl⟩

/-- Where the store puts an object it accepts: bucket and key are not empty and start with a
name, and the path is the bucket's components followed by the key's, at least one of each, all of
them names. So the object lies strictly below the bucket's directory. -/
theorem locate_confined {bucket key : String} {path : List String} {e : PathEnd}
    (h : FileStore.locate bucket key = .ok (path, e)) :
    bucket ≠ "" ∧ key ≠ "" ∧ StartsWithName bucket ∧ StartsWithName key ∧
      path = components bucket ++ components key ∧
      components bucket ≠ [] ∧ components key ≠ [] ∧ ∀ n ∈ path, NormalName n := by
  unfold FileStore.locate at h
  split at h
  · rename_i bs ks hb hk
    simp only [Except.ok.injEq, Prod.mk.injEq] at h
    obtain ⟨rfl, -⟩ := h
    obtain ⟨b_ne, b_start, bs_ne, b_names, rfl⟩ := names_of_pathNames hb
    obtain ⟨k_ne, k_start, ks_ne, k_names, rfl⟩ := names_of_pathNames hk
    refine ⟨b_ne, k_ne, b_start, k_start, rfl, bs_ne, ks_ne, fun n hn => ?_⟩
    rcases List.mem_append.1 hn with hn | hn
    · exact b_names n hn
    · exact k_names n hn
  · exact absurd h (by simp)

/-! ### Paths written from names -/

theorem splitOn_intercalate_names {ns : List String} (ne : ns ≠ [])
    (names : ∀ n ∈ ns, NormalName n) :
    ("/".intercalate ns).toList.splitOn '/' = ns.map String.toList := by
  rw [String.toList_intercalate]
  exact List.splitOn_intercalate '/' (by simpa using fun n hn => (names n hn).2.2.2)
    (by simpa using ne)

theorem splitOn_slash_intercalate {ns : List String} (ne : ns ≠ [])
    (names : ∀ n ∈ ns, NormalName n) : ("/".intercalate ns).splitOn "/" = ns := by
  rw [splitOn_slash, splitOn_intercalate_names ne names, List.map_map]
  simp

theorem pathNames_intercalate {ns : List String} (ne : ns ≠ []) (names : ∀ n ∈ ns, NormalName n) :
    pathNames ("/".intercalate ns) = some ns := by
  have split := splitOn_intercalate_names ne names
  have parts := splitOn_slash_intercalate ne names
  obtain ⟨first, rest, rfl⟩ := List.exists_cons_of_ne_nil ne
  have first_name := names first (by simp)
  -- a path refused before it is split would have an empty or `.` first part
  have accepted : ¬(("/".intercalate (first :: rest)).isEmpty ||
      ("/".intercalate (first :: rest)).startsWith "/" || "/".intercalate (first :: rest) = "." ||
      ("/".intercalate (first :: rest)).startsWith "./") = true := by
    intro refused
    obtain ⟨tail, h | h⟩ := splitOn_of_refused refused <;>
      simp only [split, List.map_cons, List.cons.injEq] at h
    · exact first_name.1 (String.toList_inj.1 (by simpa using h.1))
    · exact first_name.2.1 (String.toList_inj.1 (by simpa using h.1))
  have kept : (first :: rest).filter (fun s => s ≠ "" ∧ s ≠ ".") = first :: rest :=
    List.filter_eq_self.2 fun n hn => by simp [(names n hn).1, (names n hn).2.1]
  have no_up : (first :: rest).contains ".." = false := by
    simpa using fun hn => (names ".." hn).2.2.1 rfl
  simp only [pathNames, accepted, parts, kept, no_up]
  simp

theorem pathEnd_intercalate {ns : List String} (ne : ns ≠ []) (names : ∀ n ∈ ns, NormalName n) :
    pathEnd ("/".intercalate ns) = .name := by
  have split := splitOn_intercalate_names ne names
  have parts := splitOn_slash_intercalate ne names
  obtain ⟨init, last, rfl⟩ : ∃ init last, ns = init ++ [last] :=
    ⟨ns.dropLast, ns.getLast ne, (List.dropLast_concat_getLast ne).symm⟩
  have last_name := names last (by simp)
  have kept : (last :: init.reverse).dropWhile (· = "") = last :: init.reverse := by
    simp [last_name.1]
  -- a trailing slash would leave an empty last part
  have no_slash : ("/".intercalate (init ++ [last])).endsWith "/" = false := by
    rw [Bool.eq_false_iff]
    intro ends
    have empty := last_part_of_endsWith_slash ends
    rw [split] at empty
    exact last_name.1 (String.toList_inj.1 (by simpa using empty))
  simp only [pathEnd, parts, List.reverse_append, List.reverse_singleton, List.singleton_append,
    kept, no_slash]
  split
  · rename_i dot
    simp only [List.cons.injEq] at dot
    exact absurd dot.1 last_name.2.1
  · rfl

/-! ### The last name of a key -/

/-- A key is its last name between the part before it and the slashes after it: the part before
is empty or ends with a slash, the name holds no slash, and only a key of slashes alone has an
empty last name. -/
theorem keyBase_split (key : String) :
    ∃ pre n, key.toList = pre ++ (keyBase key).toList ++ List.replicate n '/' ∧
      '/' ∉ (keyBase key).toList ∧ (pre = [] ∨ pre.getLast? = some '/') ∧
      ((keyBase key).toList = [] → pre = []) := by
  have base : (keyBase key).toList =
      ((key.toList.reverse.dropWhile (· = '/')).takeWhile (· ≠ '/')).reverse := by
    simp [keyBase]
  -- read backwards, the key is its trailing slashes `s`, then the name `t`, then the part `u`
  -- before it; each cut is where a `takeWhile` stops
  have slashes := List.all_takeWhile (p := fun c => decide (c = '/')) (l := key.toList.reverse)
  have after := List.head_dropWhile_not (fun c => decide (c = '/')) (l := key.toList.reverse)
  have whole := List.takeWhile_append_dropWhile (p := fun c => decide (c = '/'))
    (l := key.toList.reverse)
  generalize key.toList.reverse.takeWhile (· = '/') = s at slashes whole
  generalize key.toList.reverse.dropWhile (· = '/') = d at base after whole
  have name := List.all_takeWhile (p := fun c => decide (c ≠ '/')) (l := d)
  have before := List.head_dropWhile_not (fun c => decide (c ≠ '/')) (l := d)
  have rest := List.takeWhile_append_dropWhile (p := fun c => decide (c ≠ '/')) (l := d)
  generalize d.takeWhile (· ≠ '/') = t at name base rest
  generalize d.dropWhile (· ≠ '/') = u at before rest
  subst rest
  rw [base]
  have no_slash : '/' ∉ t := fun h => by simpa using List.all_eq_true.1 name _ h
  -- the part before the name, read backwards, is empty or starts with a slash
  have before' : u = [] ∨ u.head? = some '/' := by
    cases u with
    | nil => exact .inl rfl
    | cons c rest =>
      exact .inr (by simpa using Decidable.of_not_not (of_decide_eq_false (before (by simp))))
  refine ⟨u.reverse, s.length, ?_, by simpa using no_slash, by simpa using before', ?_⟩
  · have forward := congrArg List.reverse whole
    have trailing : s.reverse = List.replicate s.length '/' :=
      List.eq_replicate_iff.2 ⟨by simp, fun c hc => by
        simpa using List.all_eq_true.1 slashes c (List.mem_reverse.1 hc)⟩
    simp only [List.reverse_append, List.reverse_reverse, trailing] at forward
    simp [← forward]
  · -- with no name, what follows the slashes starts with one, which the slashes would have taken
    intro empty
    rw [List.reverse_eq_nil_iff] at empty
    subst empty
    rcases before' with rfl | slash
    · rfl
    · cases u with
      | nil => rfl
      | cons c rest =>
        have := after (by simp)
        simp only [List.nil_append, List.head_cons] at this
        simp at slash
        exact absurd slash (of_decide_eq_false this)

theorem keyBase_last_part (key : String) :
    ∃ trimmed n, key.toList = trimmed ++ List.replicate n '/' ∧ trimmed.getLast? ≠ some '/' ∧
      (trimmed.splitOn '/').getLast? = some (keyBase key).toList := by
  obtain ⟨pre, n, hkey, no_slash, before, empty⟩ := keyBase_split key
  refine ⟨pre ++ (keyBase key).toList, n, hkey, ?_, ?_⟩
  · cases hb : (keyBase key).toList with
    | nil => simp [empty hb]
    | cons c rest =>
      simp only [List.getLast?_append] at *
      intro last
      exact no_slash (hb ▸ List.mem_of_getLast? last)
  · rcases before with rfl | slash
    · simp [List.splitOn_eq_singleton no_slash]
    · obtain ⟨ys, rfl⟩ := List.getLast?_eq_some_iff.1 slash
      rw [List.append_assoc, List.singleton_append, List.splitOn_append_cons_self,
        List.splitOn_eq_singleton no_slash]
      simp

/-! ### What a put changes -/

namespace FileTree

/-- Every entry where the two trees differ lies along the path: it is the path or a directory
above it. -/
def ChangesAlong (t t' : FileTree) (path : List String) : Prop :=
  ∀ p, t'.node? p ≠ t.node? p → p <+: path

namespace ChangesAlong

variable {t t₁ t₂ : FileTree} {path path' : List String}

theorem refl : ChangesAlong t t path := fun _ changed => absurd rfl changed

theorem trans (h₁ : ChangesAlong t t₁ path) (h₂ : ChangesAlong t₁ t₂ path) :
    ChangesAlong t t₂ path := fun p changed => by
  by_cases first : t₁.node? p = t.node? p
  · exact h₂ p (first ▸ changed)
  · exact h₁ p first

theorem mono (h : ChangesAlong t t₁ path) (longer : path <+: path') : ChangesAlong t t₁ path' :=
  fun p changed => (h p changed).trans longer

theorem of_others (h : ∀ p, p ≠ path → t₁.node? p = t.node? p) : ChangesAlong t t₁ path :=
  fun p changed => by
    by_cases hp : p = path
    · exact hp ▸ List.prefix_refl path
    · exact absurd (h p hp) changed

end ChangesAlong

theorem mkdir_changesAlong {t t' : FileTree} {path : List String} (h : t.mkdir path = .ok t') :
    ChangesAlong t t' path := by
  unfold mkdir at h
  cases hw : t.walk path with
  | error f => simp [hw, bind, Except.bind] at h
  | ok x =>
    cases x with
    | some n => simp [hw, bind, Except.bind, throw, throwThe, MonadExceptOf.throw] at h
    | none =>
      simp only [hw, bind, Except.bind, pure, Except.pure, Except.ok.injEq] at h
      subst h
      exact .of_others fun p hp => node?_congr (find?_append_of_ne _ _ _ hp)

theorem mkdirAll_go_changesAlong (fuel : Nat) (t : FileTree) (path : List String) :
    ChangesAlong t (mkdirAll.go fuel t path).1 path := by
  induction fuel generalizing t path with
  | zero => exact .refl
  | succ fuel ih =>
    -- the directories above are made by the call on the parent, which stays along the path
    have parent := (ih t path.dropLast).mono (List.dropLast_prefix path)
    rw [mkdirAll.go]
    split
    · exact .refl
    · split
      · exact mkdir_changesAlong ‹_›
      · split
        · rename_i made
          exact made ▸ parent
        · rename_i made
          rw [made] at parent
          split
          · exact parent.trans (mkdir_changesAlong ‹_›)
          · split <;> exact parent
      · split <;> exact .refl

theorem mkdirAll_changesAlong (t : FileTree) (path : List String) :
    ChangesAlong t (t.mkdirAll path).1 path :=
  mkdirAll_go_changesAlong _ t path

end FileTree

theorem FileStore.put_changesAlong {s : FileStore} {bucket key : String} {body : List UInt8}
    {path : List String} {e : PathEnd} (h : FileStore.locate bucket key = .ok (path, e)) :
    FileTree.ChangesAlong s.tree (s.put bucket key body).1.tree path ∧
      ((s.put bucket key body).2 = .ok () →
        (s.put bucket key body).1.tree.node? path = some (.file body)) := by
  have dirs :=
    (FileTree.mkdirAll_changesAlong s.tree path.dropLast).mono (List.dropLast_prefix path)
  unfold put
  rw [h]
  dsimp only
  split
  · exact ⟨.refl, by simp⟩
  · split
    · rename_i made
      rw [made] at dirs
      exact ⟨dirs, by simp⟩
    · rename_i made
      rw [made] at dirs
      split
      · exact ⟨dirs, by simp⟩
      · split
        · rename_i written
          obtain ⟨-, at_path, others⟩ := FileTree.write_ok written
          exact ⟨dirs.trans (.of_others others), fun _ => at_path⟩
        · exact ⟨dirs, by simp⟩

/-! ### Quarantine keys -/

/-- The name of a quarantine file: the key's last name, the time in seconds and `.csv`. -/
def quarantineName (key : String) (now : Instant) : String :=
  keyBase key ++ "-" ++ toString now.seconds ++ ".csv"

theorem quarantineKey_eq (key : String) (now : Instant) :
    quarantineKey key now = "errors/" ++ quarantineName key now := by
  simp [quarantineKey, quarantineName, String.append_assoc]

theorem slash_not_mem_toString (i : Int) : '/' ∉ (toString i).toList := by
  have digits : ∀ n : Nat, '/' ∉ n.repr.toList := fun n mem => by
    have := Nat.isDigit_of_mem_toDigits (by decide) (by decide) (Nat.toList_repr ▸ mem)
    exact absurd this (by decide)
  change '/' ∉ i.repr.toList
  rw [Int.repr_eq_if]
  split
  · exact digits _
  · simpa using digits _

theorem quarantineName_normal (key : String) (now : Instant) :
    NormalName (quarantineName key now) := by
  have dash : '-' ∈ (quarantineName key now).toList := by simp [quarantineName]
  obtain ⟨-, -, -, no_slash, -, -⟩ := keyBase_split key
  refine ⟨fun e => by simp [e] at dash, fun e => by simp [e] at dash, fun e => by simp [e] at dash,
    ?_⟩
  simp only [quarantineName, String.toList_append, List.mem_append, not_or]
  exact ⟨⟨⟨no_slash, by simp⟩, slash_not_mem_toString _⟩, by simp⟩

theorem errors_normal : NormalName "errors" := by decide

theorem pathNames_quarantineKey (key : String) (now : Instant) :
    pathNames (quarantineKey key now) = some ["errors", quarantineName key now] ∧
      pathEnd (quarantineKey key now) = .name := by
  have names : ∀ n ∈ ["errors", quarantineName key now], NormalName n := by
    simp [errors_normal, quarantineName_normal]
  have joined : quarantineKey key now = "/".intercalate ["errors", quarantineName key now] := by
    rw [quarantineKey_eq, ← String.toList_inj]
    simp
  rw [joined]
  exact ⟨pathNames_intercalate (by simp) names, pathEnd_intercalate (by simp) names⟩

theorem locate_quarantineKey {bucket : String} {bs : List String} (key : String) (now : Instant)
    (hb : pathNames bucket = some bs) :
    FileStore.locate bucket (quarantineKey key now) =
      .ok (bs ++ ["errors", quarantineName key now], .name) := by
  obtain ⟨names, ends⟩ := pathNames_quarantineKey key now
  simp [FileStore.locate, hb, names, ends]

/-! ### Confinement -/

/-- The store accepts a bucket and a key only when both start with a name and have only names as
components, and keeps the object strictly below its bucket, at those names. A quarantine key is `errors/` and a name made of the key's last name, read as the last
part between slashes once trailing slashes are removed; the store reads it as exactly those two
names, so a put of it changes the bucket's directories, its `errors` directory and the file in
it and nothing else, and one that succeeds leaves the file there. -/
theorem quarantine_lands_in_errors :
    (∀ bucket key path e, FileStore.locate bucket key = .ok (path, e) →
      bucket ≠ "" ∧ key ≠ "" ∧ StartsWithName bucket ∧ StartsWithName key ∧
        path = components bucket ++ components key ∧
        components bucket ≠ [] ∧ components key ≠ [] ∧ ∀ n ∈ path, NormalName n) ∧
    (∀ key now, quarantineKey key now = "errors/" ++ quarantineName key now ∧
      ∃ trimmed n, key.toList = trimmed ++ List.replicate n '/' ∧ trimmed.getLast? ≠ some '/' ∧
        (trimmed.splitOn '/').getLast? = some (keyBase key).toList) ∧
    (∀ key now, pathNames (quarantineKey key now) = some ["errors", quarantineName key now] ∧
      NormalName (quarantineName key now) ∧ pathEnd (quarantineKey key now) = .name) ∧
    ∀ (s : FileStore) bucket bs key now body, pathNames bucket = some bs →
      FileStore.locate bucket (quarantineKey key now) =
          .ok (bs ++ ["errors", quarantineName key now], .name) ∧
        FileTree.ChangesAlong s.tree (s.put bucket (quarantineKey key now) body).1.tree
          (bs ++ ["errors", quarantineName key now]) ∧
        ((s.put bucket (quarantineKey key now) body).2 = .ok () →
          (s.put bucket (quarantineKey key now) body).1.tree.node?
            (bs ++ ["errors", quarantineName key now]) = some (.file body)) := by
  refine ⟨fun _ _ _ _ h => locate_confined h, fun key now => ⟨quarantineKey_eq key now,
    keyBase_last_part key⟩, fun key now => ?_, fun s bucket bs key now body hb => ?_⟩
  · obtain ⟨names, ends⟩ := pathNames_quarantineKey key now
    exact ⟨names, quarantineName_normal key now, ends⟩
  · have located := locate_quarantineKey key now hb
    exact ⟨located, FileStore.put_changesAlong located⟩

/-- An upload `in/a.csv` of bucket `orders` rejected at second 7 is quarantined at
`orders/errors/a.csv-7.csv`, its key read as the names `errors` and `a.csv-7.csv`. -/
theorem sample_quarantine_in_errors :
    pathNames "orders" = some ["orders"] ∧
      FileStore.locate "orders" (quarantineKey "in/a.csv" (Instant.ofUnix 7)) =
        .ok (["orders", "errors", "a.csv-7.csv"], .name) ∧
      components (quarantineKey "in/a.csv" (Instant.ofUnix 7)) = ["errors", "a.csv-7.csv"] := by
  have orders : pathNames "orders" = some ["orders"] :=
    @pathNames_intercalate ["orders"] (by simp) (by decide)
  have name : quarantineName "in/a.csv" (Instant.ofUnix 7) = "a.csv-7.csv" := by decide
  obtain ⟨located, -, -⟩ :=
    quarantine_lands_in_errors.2.2.2 {} "orders" ["orders"] "in/a.csv" (Instant.ofUnix 7) [] orders
  rw [name] at located
  obtain ⟨-, -, -, -, path, -⟩ := quarantine_lands_in_errors.1 _ _ _ _ located
  have bucket : components "orders" = ["orders"] := by decide
  rw [bucket] at path
  exact ⟨orders, located, by simpa using path.symm⟩

end Fulfilment
