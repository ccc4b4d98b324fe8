import Mathlib.Data.List.Basic

/-!
# Text in brackets

A counter follows round brackets through a text; the characters met while it is at
zero stand outside of all brackets.  Words that are balanced and do not show the
character `c` outside of their brackets can be told apart again after they were
joined by `" cc "`.
-/

namespace PushGoals.Brackets

/-- The depth after a text that starts at depth `d`, if no bracket is closed that was
not opened. -/
def depth? : Nat → List Char → Option Nat
  | d, [] => some d
  | d, x :: rest =>
      if x = '(' then depth? (d + 1) rest
      else if x = ')' then if d = 0 then none else depth? (d - 1) rest
      else depth? d rest

/-- The characters outside of all brackets in a text that starts at depth `d`. -/
def surface : Nat → List Char → List Char
  | _, [] => []
  | d, x :: rest =>
      if x = '(' then surface (d + 1) rest
      else if x = ')' then surface (d - 1) rest
      else if d = 0 then x :: surface d rest
      else surface d rest

def Balanced (text : List Char) : Prop := depth? 0 text = some 0

instance (text : List Char) : Decidable (Balanced text) :=
  inferInstanceAs (Decidable (_ = _))

/-- Text without brackets. -/
def Plain (text : List Char) : Prop := '(' ∉ text ∧ ')' ∉ text

instance (text : List Char) : Decidable (Plain text) :=
  inferInstanceAs (Decidable (_ ∧ _))

/-- Balanced text that shows only characters with property `P` outside of brackets. -/
structure Showing (P : Char → Prop) (text : List Char) : Prop where
  balanced : Balanced text
  shown : ∀ x ∈ surface 0 text, P x

variable {P Q : Char → Prop} {d e : Nat} {a b body text word : List Char}

theorem depth?_append (d : Nat) (a b : List Char) :
    depth? d (a ++ b) = (depth? d a).bind fun e => depth? e b := by
  induction a generalizing d with
  | nil => rfl
  | cons x rest ih =>
      rw [List.cons_append, depth?, depth?]
      split
      · exact ih (d + 1)
      · split
        · split
          · rfl
          · exact ih (d - 1)
        · exact ih d

theorem surface_append (ha : depth? d a = some e) (b : List Char) :
    surface d (a ++ b) = surface d a ++ surface e b := by
  induction a generalizing d with
  | nil =>
      cases ha
      rfl
  | cons x rest ih =>
      rw [depth?] at ha
      rw [List.cons_append, surface, surface]
      by_cases hopens : x = '('
      · simp only [hopens, if_true] at ha ⊢
        exact ih ha
      · by_cases hcloses : x = ')'
        · by_cases hd : d = 0
          · simp [hcloses, hd] at ha
          · simp only [hcloses, hd, if_true, if_false, Char.reduceEq] at ha ⊢
            exact ih ha
        · simp only [hopens, hcloses, if_false] at ha ⊢
          rw [ih ha]
          split <;> rfl

/-- One bracket around a text leaves the depth one higher and hides the text. -/
theorem inside (ha : depth? d a = some e) :
    depth? (d + 1) a = some (e + 1) ∧ surface (d + 1) a = [] := by
  induction a generalizing d with
  | nil =>
      cases ha
      exact ⟨rfl, rfl⟩
  | cons x rest ih =>
      rw [depth?] at ha
      rw [depth?, surface]
      by_cases hopens : x = '('
      · simp only [hopens, if_true] at ha ⊢
        exact ih ha
      · by_cases hcloses : x = ')'
        · by_cases hd : d = 0
          · simp [hcloses, hd] at ha
          · obtain ⟨d, rfl⟩ := Nat.exists_eq_succ_of_ne_zero hd
            simp only [hcloses, if_true, if_false, Char.reduceEq, Nat.succ_eq_add_one,
              Nat.add_eq_zero_iff, Nat.one_ne_zero, and_false, Nat.add_sub_cancel] at ha ⊢
            exact ih ha
        · simp only [hopens, hcloses, if_false, Nat.add_eq_zero_iff, Nat.one_ne_zero,
            and_false] at ha ⊢
          exact ih ha

theorem Plain.balanced_and_surface (hplain : Plain text) :
    Balanced text ∧ surface 0 text = text := by
  induction text with
  | nil => exact ⟨rfl, rfl⟩
  | cons x rest ih =>
      obtain ⟨hopens, hcloses⟩ := hplain
      obtain ⟨hx, hrest⟩ := not_or.mp (mt List.mem_cons.mpr hopens)
      obtain ⟨hx', hrest'⟩ := not_or.mp (mt List.mem_cons.mpr hcloses)
      obtain ⟨hbalanced, hsurface⟩ := ih ⟨hrest, hrest'⟩
      unfold Balanced at hbalanced ⊢
      rw [depth?, surface]
      simp only [Ne.symm hx, Ne.symm hx', if_false, if_true, hbalanced, hsurface, and_self]

namespace Showing

theorem plain (hplain : Plain text) (hshown : ∀ x ∈ text, P x) : Showing P text := by
  obtain ⟨hbalanced, hsurface⟩ := hplain.balanced_and_surface
  exact ⟨hbalanced, by rwa [hsurface]⟩

theorem mono (hPQ : ∀ x, P x → Q x) (htext : Showing P text) : Showing Q text :=
  ⟨htext.balanced, fun x hx => hPQ x (htext.shown x hx)⟩

theorem append (ha : Showing P a) (hb : Showing P b) : Showing P (a ++ b) := by
  constructor
  · have hrun := depth?_append 0 a b
    rw [ha.balanced, Option.bind_some, hb.balanced] at hrun
    exact hrun
  · rw [surface_append ha.balanced]
    exact List.forall_mem_append.mpr ⟨ha.shown, hb.shown⟩

theorem enclosed (hbody : Balanced body) : Showing P ('(' :: body ++ [')']) := by
  obtain ⟨hdepth, hsurface⟩ := inside hbody
  constructor
  · change depth? 1 (body ++ [')']) = some 0
    rw [depth?_append, hdepth]
    rfl
  · change ∀ x ∈ surface 1 (body ++ [')']), P x
    rw [surface_append hdepth, hsurface]
    exact fun x hx => nomatch hx

theorem intercalate {sep : List Char} (hsep : Showing P sep) {words : List (List Char)}
    (hwords : ∀ word ∈ words, Showing P word) : Showing P (sep.intercalate words) := by
  induction words with
  | nil => exact ⟨rfl, fun x hx => nomatch hx⟩
  | cons word rest ih =>
      obtain ⟨hword, hrest⟩ := List.forall_mem_cons.mp hwords
      cases rest with
      | nil => rwa [List.intercalate_singleton]
      | cons next rest =>
          rw [List.intercalate_cons_cons]
          exact (hword.append hsep).append (ih hrest)

end Showing

/-! ## Words joined by a separator -/

/-- Nothing, or text that starts like the separator `" cc "`. -/
def Follows (c : Char) (text : List Char) : Prop := text = [] ∨ ∃ rest, text = ' ' :: c :: rest

variable {c : Char} {s t : List Char}

/-- What follows a word cannot be read as more of the word. -/
theorem eq_nil_of_follows (hc : c ≠ ' ' ∧ c ≠ '(' ∧ c ≠ ')') (ha : Balanced a)
    (hb : Showing (· ≠ c) (a ++ b)) (hs : Follows c (b ++ t)) (ht : Follows c t) : b = [] := by
  obtain ⟨hspace, hopens, hcloses⟩ := hc
  rcases hs with hnil | ⟨rest, hs⟩
  · exact (List.append_eq_nil_iff.mp hnil).1
  · cases b with
    | nil => rfl
    | cons x b =>
        obtain ⟨rfl, hrest⟩ := List.cons.inj hs
        cases b with
        | nil =>
            rcases ht with rfl | ⟨later, rfl⟩
            · cases hrest
            · exact absurd (List.cons.inj hrest).1.symm hspace
        | cons y b =>
            obtain ⟨rfl, -⟩ := List.cons.inj hrest
            have hshows : y ∈ surface 0 (a ++ ' ' :: y :: b) := by
              rw [surface_append ha]
              simp [surface, hopens, hcloses]
            exact absurd rfl (hb.shown y hshows)

theorem word_inj (hc : c ≠ ' ' ∧ c ≠ '(' ∧ c ≠ ')') (ha : Showing (· ≠ c) a)
    (hb : Showing (· ≠ c) b) (hs : Follows c s) (ht : Follows c t) (heq : a ++ s = b ++ t) :
    a = b ∧ s = t := by
  rcases List.append_eq_append_iff.mp heq with ⟨more, rfl, rfl⟩ | ⟨more, rfl, rfl⟩
  · have hmore := eq_nil_of_follows hc ha.balanced hb hs ht
    simp [hmore]
  · have hmore := eq_nil_of_follows hc hb.balanced ha ht hs
    simp [hmore]

theorem intercalate_cons (sep word : List Char) (rest : List (List Char)) :
    sep.intercalate (word :: rest) = word ++ rest.flatMap (sep ++ ·) := by
  induction rest generalizing word with
  | nil => simp
  | cons next rest ih => rw [List.intercalate_cons_cons, ih, List.flatMap_cons, List.append_assoc,
      List.append_assoc]

theorem follows_flatMap (words : List (List Char)) :
    Follows c (words.flatMap ([' ', c, c, ' '] ++ ·)) := by
  cases words with
  | nil => exact .inl rfl
  | cons word rest => exact .inr ⟨_, rfl⟩

theorem preceded_inj (hc : c ≠ ' ' ∧ c ≠ '(' ∧ c ≠ ')') {words others : List (List Char)}
    (hwords : ∀ word ∈ words, Showing (· ≠ c) word)
    (hothers : ∀ word ∈ others, Showing (· ≠ c) word)
    (heq : words.flatMap ([' ', c, c, ' '] ++ ·) = others.flatMap ([' ', c, c, ' '] ++ ·)) :
    words = others := by
  induction words generalizing others with
  | nil =>
      cases others with
      | nil => rfl
      | cons other later => cases heq
  | cons word rest ih =>
      cases others with
      | nil => cases heq
      | cons other later =>
          obtain ⟨hword, hrest⟩ := List.forall_mem_cons.mp hwords
          obtain ⟨hother, hlater⟩ := List.forall_mem_cons.mp hothers
          rw [List.flatMap_cons, List.flatMap_cons, List.append_assoc, List.append_assoc] at heq
          obtain ⟨rfl, htails⟩ := word_inj hc hword hother (follows_flatMap rest)
            (follows_flatMap later) (List.append_cancel_left heq)
          rw [ih hrest hlater htails]

/-- Words can be told apart again after they were joined. -/
theorem words_inj (hc : c ≠ ' ' ∧ c ≠ '(' ∧ c ≠ ')') {words others : List (List Char)}
    (hwords : ∀ word ∈ words, Showing (· ≠ c) word)
    (hothers : ∀ word ∈ others, Showing (· ≠ c) word) (hne : words ≠ []) (hne' : others ≠ [])
    (heq : [' ', c, c, ' '].intercalate words = [' ', c, c, ' '].intercalate others) :
    words = others := by
  obtain ⟨word, rest, rfl⟩ := List.exists_cons_of_ne_nil hne
  obtain ⟨other, later, rfl⟩ := List.exists_cons_of_ne_nil hne'
  obtain ⟨hword, hrest⟩ := List.forall_mem_cons.mp hwords
  obtain ⟨hother, hlater⟩ := List.forall_mem_cons.mp hothers
  rw [intercalate_cons, intercalate_cons] at heq
  obtain ⟨rfl, htails⟩ :=
    word_inj hc hword hother (follows_flatMap rest) (follows_flatMap later) heq
  rw [preceded_inj hc hrest hlater htails]

end PushGoals.Brackets
