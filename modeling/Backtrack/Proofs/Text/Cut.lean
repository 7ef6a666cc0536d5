import Backtrack.Text.Offset

/-! # Cuts of a text

    A byte offset is a place in a text exactly when the text splits into a
    front of that many bytes and a rest. Every way to cut a text
    (`dropBytes?`, `takeBytes?`, `slice?`, `isBoundary`) is characterised
    here by such a split, so that nothing else has to count bytes.

    * `eq_of_append_of_size_eq`: the split at an offset is unique.
    * `slice?_eq_some_iff`: a slice is the middle of a text cut in three.
-/

namespace Backtrack.Text

/-! ## §1. Sizes -/

@[simp] theorem size_nil : size [] = 0 := rfl

@[simp] theorem size_cons (c : Char) (text : Text) : size (c :: text) = c.utf8Size + size text :=
  rfl

@[simp] theorem size_append (front rest : Text) :
    size (front ++ rest) = size front + size rest := by
  induction front with
  | nil => simp
  | cons c front ih => simp only [List.cons_append, size_cons, ih]; omega

/-- Only the empty text has no bytes. -/
theorem size_eq_zero_iff {text : Text} : size text = 0 ↔ text = [] := by
  cases text with
  | nil => simp
  | cons c rest =>
    have hc := c.utf8Size_pos
    simp only [size_cons, List.cons_ne_nil, iff_false]
    omega

theorem size_pos_of_ne_nil {text : Text} (h : text ≠ []) : 0 < size text := by
  have hne : size text ≠ 0 := fun h0 => h (size_eq_zero_iff.1 h0)
  omega

/-- Two ways to split a text in front of which there are as many bytes are the same. -/
theorem eq_of_append_of_size_eq {a b c d : Text} (h : a ++ b = c ++ d)
    (hsize : size a = size c) : a = c ∧ b = d := by
  -- The texts agree from the start, so the sizes go down together.
  induction a generalizing c with
  | nil =>
    have hc : c = [] := size_eq_zero_iff.1 hsize.symm
    subst hc
    exact ⟨rfl, h⟩
  | cons x a ih =>
    cases c with
    | nil =>
      have hx := x.utf8Size_pos
      simp only [size_cons, size_nil] at hsize
      omega
    | cons y c =>
      simp only [List.cons_append, List.cons.injEq] at h
      obtain ⟨rfl, htail⟩ := h
      have hsize' : size a = size c := by
        simp only [size_cons] at hsize
        omega
      obtain ⟨rfl, rfl⟩ := ih htail hsize'
      exact ⟨rfl, rfl⟩

/-! ## §2. Fronts and rests -/

/-- The rest behind an offset is what follows a front of that many bytes. -/
theorem dropBytes?_eq_some_iff {text rest : Text} {offset : Nat} :
    text.dropBytes? offset = some rest ↔ ∃ front, text = front ++ rest ∧ size front = offset := by
  induction text generalizing offset with
  | nil =>
    cases offset with
    | zero =>
      constructor
      · intro h
        simp only [dropBytes?, Option.some.injEq] at h
        exact ⟨[], by simp [← h], rfl⟩
      · rintro ⟨front, htext, _⟩
        have hrest : rest = [] := (List.append_eq_nil_iff.1 htext.symm).2
        simp [dropBytes?, hrest]
    | succ n =>
      simp only [dropBytes?, reduceCtorEq, false_iff, not_exists, not_and]
      rintro front hfront hsize
      have hnil : front = [] := (List.append_eq_nil_iff.1 hfront.symm).1
      simp [hnil] at hsize
  | cons c text ih =>
    cases offset with
    | zero =>
      constructor
      · intro h
        simp only [dropBytes?, Option.some.injEq] at h
        exact ⟨[], by simp [h], rfl⟩
      · rintro ⟨front, htext, hsize⟩
        rw [size_eq_zero_iff.1 hsize] at htext
        simp [dropBytes?, htext]
    | succ n =>
      have hc := c.utf8Size_pos
      simp only [dropBytes?]
      constructor
      · intro h
        -- An offset inside the first character is no boundary.
        split at h
        · next hle =>
          obtain ⟨front, rfl, hsize⟩ := ih.1 h
          exact ⟨c :: front, rfl, by simp only [size_cons]; omega⟩
        · simp at h
      · rintro ⟨front, htext, hsize⟩
        cases front with
        | nil => simp at hsize
        | cons x front =>
          simp only [List.cons_append, List.cons.injEq] at htext
          obtain ⟨rfl, rfl⟩ := htext
          simp only [size_cons] at hsize
          rw [if_pos (by omega)]
          exact ih.2 ⟨front, rfl, by omega⟩

/-- The front up to an offset is the part of that many bytes at the start. -/
theorem takeBytes?_eq_some_iff {text front : Text} {offset : Nat} :
    text.takeBytes? offset = some front ↔ ∃ rest, text = front ++ rest ∧ size front = offset := by
  induction text generalizing offset front with
  | nil =>
    cases offset with
    | zero =>
      simp only [takeBytes?, Option.some.injEq]
      constructor
      · rintro rfl
        exact ⟨[], rfl, rfl⟩
      · rintro ⟨rest, _, hsize⟩
        exact (size_eq_zero_iff.1 hsize).symm
    | succ n =>
      simp only [takeBytes?, reduceCtorEq, false_iff, not_exists, not_and]
      rintro rest hfront hsize
      have hnil : front = [] := (List.append_eq_nil_iff.1 hfront.symm).1
      simp [hnil] at hsize
  | cons c text ih =>
    cases offset with
    | zero =>
      simp only [takeBytes?, Option.some.injEq]
      constructor
      · rintro rfl
        exact ⟨c :: text, rfl, rfl⟩
      · rintro ⟨rest, _, hsize⟩
        exact (size_eq_zero_iff.1 hsize).symm
    | succ n =>
      have hc := c.utf8Size_pos
      simp only [takeBytes?]
      constructor
      · intro h
        split at h
        · next hle =>
          obtain ⟨inner, hinner, rfl⟩ := Option.map_eq_some_iff.1 h
          obtain ⟨rest, rfl, hsize⟩ := ih.1 hinner
          exact ⟨rest, rfl, by simp only [size_cons]; omega⟩
        · simp at h
      · rintro ⟨rest, htext, hsize⟩
        cases front with
        | nil => simp at hsize
        | cons x front =>
          simp only [List.cons_append, List.cons.injEq] at htext
          obtain ⟨rfl, rfl⟩ := htext
          simp only [size_cons] at hsize
          rw [if_pos (by omega), ih.2 ⟨rest, rfl, by omega⟩]
          rfl

/-- Behind something else, an offset moves by the size of that. -/
theorem dropBytes?_append (front text : Text) (offset : Nat) :
    dropBytes? (front ++ text) (size front + offset) = text.dropBytes? offset := by
  induction front with
  | nil => simp
  | cons c front ih =>
    have hc := c.utf8Size_pos
    obtain ⟨n, hn⟩ : ∃ n, size (c :: front) + offset = n + 1 := by
      refine ⟨size (c :: front) + offset - 1, ?_⟩
      simp only [size_cons]
      omega
    have hle : c.utf8Size ≤ n + 1 := by
      rw [← hn, size_cons]
      omega
    have hbehind : n + 1 - c.utf8Size = size front + offset := by
      rw [← hn, size_cons]
      omega
    rw [hn, List.cons_append, dropBytes?, if_pos hle, hbehind, ih]

/-- The character in front of a place is the last one of what is in front. -/
theorem charBefore?_size (front rest : Text) :
    (front ++ rest).charBefore? (size front) = front.getLast? := by
  induction front with
  | nil =>
    cases rest with
    | nil => rfl
    | cons c rest =>
      have hpos := c.utf8Size_pos
      rw [List.nil_append, size_nil, charBefore?, if_neg (by omega), if_neg (by omega)]
      rfl
  | cons c front ih =>
    rw [List.cons_append, size_cons, charBefore?]
    by_cases hfront : front = []
    · simp [hfront]
    · have hpos := size_pos_of_ne_nil hfront
      rw [if_neg (by omega), if_pos (by omega), Nat.add_sub_cancel_left, ih]
      exact (List.getLast?_cons_of_ne_nil hfront).symm

/-- What is behind a given beginning is what the text goes on with. -/
theorem after?_eq_some_iff {beginning text rest : Text} :
    beginning.after? text = some rest ↔ text = beginning ++ rest := by
  induction beginning generalizing text with
  | nil => simp [after?]
  | cons b beginning ih =>
    cases text with
    | nil => simp [after?]
    | cons c text =>
      by_cases h : b = c
      · subst h
        simp [after?, ih]
      · simp [after?, h, Ne.symm h]

/-! ## §3. Boundaries and slices -/

theorem isBoundary_iff {text : Text} {offset : Nat} :
    text.isBoundary offset = true ↔ ∃ front rest, text = front ++ rest ∧ size front = offset := by
  simp only [isBoundary, Option.isSome_iff_exists, dropBytes?_eq_some_iff]
  constructor
  · rintro ⟨rest, front, h⟩
    exact ⟨front, rest, h⟩
  · rintro ⟨front, rest, h⟩
    exact ⟨rest, front, h⟩

/-- A slice is the middle of the text cut in three. -/
theorem slice?_eq_some_iff {text part : Text} {start stop : Nat} :
    text.slice? start stop = some part ↔
      ∃ front rest, text = front ++ part ++ rest ∧ size front = start ∧
        start + size part = stop := by
  unfold slice?
  constructor
  · intro h
    split at h
    · next hle =>
      obtain ⟨behind, hbehind, hpart⟩ := Option.bind_eq_some_iff.1 h
      obtain ⟨front, rfl, hfront⟩ := dropBytes?_eq_some_iff.1 hbehind
      obtain ⟨rest, rfl, hsize⟩ := takeBytes?_eq_some_iff.1 hpart
      exact ⟨front, rest, by simp, hfront, by omega⟩
    · simp at h
  · rintro ⟨front, rest, rfl, hfront, hstop⟩
    have hdrop : dropBytes? (front ++ part ++ rest) start = some (part ++ rest) :=
      dropBytes?_eq_some_iff.2 ⟨front, by simp, hfront⟩
    rw [if_pos (by omega), hdrop, Option.bind_some]
    exact takeBytes?_eq_some_iff.2 ⟨rest, rfl, by omega⟩

section Slices

variable {text part : Text} {start stop : Nat}

/-- A slice has as many bytes as lie between its ends. -/
theorem add_size_of_slice? (h : text.slice? start stop = some part) :
    start + size part = stop := by
  obtain ⟨_, _, _, _, hstop⟩ := slice?_eq_some_iff.1 h
  exact hstop

theorem isBoundary_start_of_slice? (h : text.slice? start stop = some part) :
    text.isBoundary start = true := by
  obtain ⟨front, rest, rfl, hfront, _⟩ := slice?_eq_some_iff.1 h
  exact isBoundary_iff.2 ⟨front, part ++ rest, by simp, hfront⟩

theorem isBoundary_stop_of_slice? (h : text.slice? start stop = some part) :
    text.isBoundary stop = true := by
  obtain ⟨front, rest, rfl, hfront, hstop⟩ := slice?_eq_some_iff.1 h
  exact isBoundary_iff.2 ⟨front ++ part, rest, by simp, by rw [size_append]; omega⟩

theorem le_size_of_isBoundary {offset : Nat} (h : text.isBoundary offset = true) :
    offset ≤ size text := by
  obtain ⟨front, rest, rfl, hfront⟩ := isBoundary_iff.1 h
  rw [size_append]
  omega

theorem le_size_of_slice? (h : text.slice? start stop = some part) : stop ≤ size text :=
  le_size_of_isBoundary (isBoundary_stop_of_slice? h)

/-- The empty slice at a boundary. -/
theorem slice?_self (h : text.isBoundary start = true) : text.slice? start start = some [] := by
  obtain ⟨front, rest, rfl, hfront⟩ := isBoundary_iff.1 h
  exact slice?_eq_some_iff.2 ⟨front, rest, by simp, hfront, by simp⟩

/-- Between two boundaries there is a slice. -/
theorem exists_slice? (hstart : text.isBoundary start = true) (hstop : text.isBoundary stop = true)
    (hle : start ≤ stop) : ∃ part, text.slice? start stop = some part := by
  obtain ⟨front, behind, htext, hfront⟩ := isBoundary_iff.1 hstart
  obtain ⟨longer, rest, htext', hlonger⟩ := isBoundary_iff.1 hstop
  have hsplit : front ++ behind = longer ++ rest := htext.symm.trans htext'
  rcases List.append_eq_append_iff.1 hsplit with ⟨part, rfl, rfl⟩ | ⟨part, rfl, rfl⟩
  · rw [size_append] at hlonger
    exact ⟨part, slice?_eq_some_iff.2 ⟨front, rest, by simp [htext], hfront, by omega⟩⟩
  · -- The second boundary is not in front of the first, so nothing stands between them.
    rw [size_append] at hfront
    obtain rfl : start = stop := by omega
    exact ⟨[], slice?_self hstart⟩

/-- Two slices of which the second starts where the first ends make one slice. -/
theorem slice?_append {middle : Nat} {first second : Text}
    (h₁ : text.slice? start middle = some first) (h₂ : text.slice? middle stop = some second) :
    text.slice? start stop = some (first ++ second) := by
  obtain ⟨front, rest, htext, hfront, hmiddle⟩ := slice?_eq_some_iff.1 h₁
  obtain ⟨front', rest', htext', hfront', hstop⟩ := slice?_eq_some_iff.1 h₂
  -- Both slices cut the text in their common end, and there is one way to do so.
  have hcut : (front ++ first) ++ rest = front' ++ (second ++ rest') := by
    rw [← htext, htext']
    simp
  have hsize : size (front ++ first) = size front' := by rw [size_append]; omega
  obtain ⟨-, hrest⟩ := eq_of_append_of_size_eq hcut hsize
  refine slice?_eq_some_iff.2 ⟨front, rest', ?_, hfront, ?_⟩
  · rw [htext, hrest]
    simp
  · rw [size_append]
    omega

end Slices

end Backtrack.Text
