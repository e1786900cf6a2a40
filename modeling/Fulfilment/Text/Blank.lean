/-!
Blanks are the characters of the Unicode White_Space property: U+0009 to U+000D, U+0020,
U+0085, U+00A0, U+1680, U+2000 to U+200A, U+2028, U+2029, U+202F, U+205F and U+3000.
Trimming removes blanks from both ends of a text and keeps everything between.
-/

namespace Fulfilment.Text

def isBlank (c : Char) : Bool :=
  let n := c.toNat
  (9 ≤ n && n ≤ 13) || n == 32 || n == 0x85 || n == 0xA0 || n == 0x1680 ||
    (0x2000 ≤ n && n ≤ 0x200A) || n == 0x2028 || n == 0x2029 || n == 0x202F ||
    n == 0x205F || n == 0x3000

def trimBlankList (cs : List Char) : List Char :=
  ((cs.dropWhile isBlank).reverse.dropWhile isBlank).reverse

def trimBlank (s : String) : String := String.ofList (trimBlankList s.toList)

def isBlankText (s : String) : Bool := s.toList.all isBlank

theorem isBlank_of_isWhitespace (c : Char) (h : c.isWhitespace = true) : isBlank c = true := by
  simp only [Char.isWhitespace, Bool.or_eq_true, decide_eq_true_eq] at h
  rcases h with ((h | h) | h) | h <;> subst h <;> decide

theorem dropWhile_of_head {p : Char → Bool} :
    ∀ {l : List Char}, (∀ h : l ≠ [], p (l.head h) = false) → l.dropWhile p = l
  | [], _ => rfl
  | c :: l, keep => by
    have kept : p c = false := keep (List.cons_ne_nil c l)
    simp [List.dropWhile, kept]

theorem trimBlankList_trimBlankList (cs : List Char) :
    trimBlankList (trimBlankList cs) = trimBlankList cs := by
  -- the first pass keeps `e` reversed, where `e` is what is left of `d` reversed
  let d := cs.dropWhile isBlank
  let e := d.reverse.dropWhile isBlank
  have first : trimBlankList cs = e.reverse := rfl
  -- what is kept is a prefix of `d`, so it starts as `d` does
  have start : e.reverse.dropWhile isBlank = e.reverse := by
    have pre : e.reverse <+: d := by
      simpa using List.reverse_prefix.2 (List.dropWhile_suffix isBlank (l := d.reverse))
    refine dropWhile_of_head fun kept => ?_
    have nonempty : d ≠ [] := fun h => kept (List.prefix_nil.1 (h ▸ pre))
    rw [List.head_eq_getElem, pre.getElem, ← List.head_eq_getElem nonempty]
    exact List.head_dropWhile_not isBlank nonempty
  have finish : e.dropWhile isBlank = e :=
    dropWhile_of_head fun kept => List.head_dropWhile_not isBlank kept
  rw [first, trimBlankList, start, List.reverse_reverse, finish]

theorem trimBlank_trimBlank (s : String) : trimBlank (trimBlank s) = trimBlank s := by
  rw [trimBlank, trimBlank, String.toList_ofList, trimBlankList_trimBlankList]

end Fulfilment.Text
