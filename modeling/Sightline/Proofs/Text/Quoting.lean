import Sightline.Text.Quoted

/-!
# What is seen of a quoted text

Nothing in a quoted text joins the character before it or is without a shape, whatever the text holds:
what cannot be seen by itself is written by its code point, and the marks and digits for that can be seen.
So no quoted text breaks its line.  What can be seen and is neither a quote nor a backslash is left as it
is.
-/

set_option autoImplicit false

namespace Sightline.Text

/-- Every character of a text can be seen by itself. -/
def Visible (text : String) : Prop := ∀ c ∈ text.toList, standsAlone c = true

theorem standsAlone_iff {c : Char} : standsAlone c = true ↔
    ∀ range ∈ joining.ranges ++ shapeless.ranges, c.toNat < range.1 ∨ range.2 < c.toNat := by
  have outside : ∀ k : CharClass, k.contains c = false ↔
      ∀ range ∈ k.ranges, c.toNat < range.1 ∨ range.2 < c.toNat := by
    intro k
    rw [← Bool.not_eq_true, CharClass.contains_iff]
    constructor
    · intro none range member
      have outside : ¬ (range.1 ≤ c.toNat ∧ c.toNat ≤ range.2) := fun within =>
        none ⟨range, member, within⟩
      omega
    · rintro all ⟨range, member, within⟩
      have := all range member
      omega
  rw [standsAlone, Bool.and_eq_true, Bool.not_eq_true', Bool.not_eq_true', outside, outside,
    List.forall_mem_append]

theorem Visible.append {text later : String} (first : Visible text) (second : Visible later) :
    Visible (text ++ later) := by
  intro c member
  rw [String.toList_append, List.mem_append] at member
  exact member.elim (first c) (second c)

theorem visible_ofList {cs : List Char} (all : ∀ c ∈ cs, standsAlone c = true) :
    Visible (String.ofList cs) := by
  unfold Visible
  rwa [String.toList_ofList]

theorem visible_hexText (n : Nat) : Visible (hexText n) := by
  have digits : ∀ d < 16, standsAlone (Nat.digitChar d) = true := by decide +kernel
  apply visible_ofList
  -- The last digit comes off, and the others are those of a smaller number.
  induction n using Nat.strongRecOn with
  | ind n ih =>
      rw [Nat.toDigits_eq_if (by decide)]
      intro c member
      split at member
      · rename_i small
        rw [List.mem_singleton.1 member]
        exact digits n small
      · rename_i large
        rcases List.mem_append.1 member with before | last
        · exact ih (n / 16) (Nat.div_lt_self (by omega) (by decide)) c before
        · rw [List.mem_singleton.1 last]
          exact digits _ (Nat.mod_lt n (by decide))

/-- Quotes, backslashes, the letters after them and braces. -/
theorem visible_marks {cs : List Char}
    (known : cs ⊆ ['"', '\\', '0', 't', 'n', 'r', 'u', '\x7b', '\x7d']) :
    Visible (String.ofList cs) := by
  have marks : ['"', '\\', '0', 't', 'n', 'r', 'u', '\x7b', '\x7d'].all standsAlone = true := by
    decide +kernel
  exact visible_ofList fun c member => List.all_eq_true.1 marks c (known member)

theorem visible_escape (c : Char) : Visible (escape c) := by
  have quote : Visible "\\\"" := visible_marks (by simp)
  have backslash : Visible "\\\\" := visible_marks (by simp)
  have null : Visible "\\0" := visible_marks (by simp)
  have tab : Visible "\\t" := visible_marks (by simp)
  have feed : Visible "\\n" := visible_marks (by simp)
  have carriage : Visible "\\r" := visible_marks (by simp)
  have opening : Visible "\\u\x7b" := visible_marks (by simp)
  have closing : Visible "\x7d" := visible_marks (by simp)
  unfold escape
  split
  · exact quote
  split
  · exact backslash
  split
  · exact null
  split
  · exact tab
  split
  · exact feed
  split
  · exact carriage
  split
  · rename_i alone
    exact visible_ofList fun d member => List.mem_singleton.1 member ▸ alone
  · exact (opening.append (visible_hexText _)).append closing

/-- No character of a quoted text lies in a range of those that join the one before them or of those
without a shape of their own. -/
theorem quoted_is_visible (text : String) : ∀ c ∈ (quoted text).toList,
    ∀ range ∈ joining.ranges ++ shapeless.ranges, c.toNat < range.1 ∨ range.2 < c.toNat := by
  have mark : Visible "\"" := visible_marks (by simp)
  have escaped : Visible (String.join (text.toList.map escape)) := by
    intro c member
    rw [String.toList_join, List.mem_flatMap] at member
    obtain ⟨_, inside, here⟩ := member
    obtain ⟨d, _, rfl⟩ := List.mem_map.1 inside
    exact visible_escape d c here
  intro c member
  exact standsAlone_iff.1 (((mark.append escaped).append mark) c member)

theorem escape_of_plain {c : Char} (alone : standsAlone c = true) (noQuote : c ≠ '"')
    (noBackslash : c ≠ '\\') : escape c = String.singleton c := by
  have controls : ['\x00', '\t', '\n', '\r'].all (fun control => !standsAlone control) = true := by
    decide +kernel
  have other : ∀ control ∈ ['\x00', '\t', '\n', '\r'], c ≠ control := by
    rintro control member rfl
    have hidden := List.all_eq_true.1 controls c member
    rw [alone] at hidden
    cases hidden
  simp only [List.forall_mem_cons] at other
  obtain ⟨null, tab, feed, carriage, _⟩ := other
  rw [escape, if_neg noQuote, if_neg noBackslash, if_neg null, if_neg tab, if_neg feed,
    if_neg carriage, if_pos alone]

/-- A text without anything to escape is put between quotes and not changed otherwise. -/
theorem quoted_of_plain {text : String}
    (plain : ∀ c ∈ text.toList, standsAlone c = true ∧ c ≠ '"' ∧ c ≠ '\\') :
    quoted text = "\"" ++ text ++ "\"" := by
  have kept : text.toList.map escape = text.toList.map String.singleton :=
    List.map_congr_left fun c member =>
      escape_of_plain (plain c member).1 (plain c member).2.1 (plain c member).2.2
  have joined : String.join (text.toList.map String.singleton) = text := by
    rw [← String.toList_inj, String.toList_join, List.flatMap_map]
    simp
  rw [quoted, kept, joined]

end Sightline.Text
