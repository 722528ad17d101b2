import Harvest.Markup.Token
import Harvest.Proofs.Text.Find
/-!
# Every token takes something

What is read is taken from the head of a text, and behind each token but the end there is less text than before it.  So
a text has at most as many tokens as characters.
-/
namespace Harvest.Text

theorem suffix_of_drop {n : Nat} {c : Char} {cs rest : List Char} (h : cs.drop n = c :: rest) : rest <:+ cs := by
  have hdrop := List.drop_suffix n cs
  rw [h] at hdrop
  exact (List.suffix_cons c rest).trans hdrop

end Harvest.Text

namespace Harvest.Markup

/-! ## References -/

namespace Reference

theorem numeric?_suffix {base : Nat} {cs text rest : List Char} (h : numeric? base cs = some (text, rest)) :
    rest <:+ cs := by
  unfold numeric? at h
  simp only at h
  split at h
  · cases h
  · cases h
    split
    · rename_i hrest
      exact Text.suffix_of_drop hrest
    · exact List.drop_suffix _ _

theorem named?_suffix {inAttr : Bool} {cs text rest : List Char} (h : named? inAttr cs = some (text, rest)) :
    rest <:+ cs := by
  unfold named? at h
  extract_lets run bare at h
  have hbare : bare = some (text, rest) → rest <:+ cs := by
    intro hb
    unfold bare at hb
    split at hb
    · simp only at hb
      split at hb
      · cases hb
      · cases hb
        exact List.drop_suffix _ _
    · cases hb
  split at h
  · rename_i hrest
    split at h
    · cases h
      exact Text.suffix_of_drop hrest
    · exact hbare h
  · exact hbare h

theorem read?_suffix {inAttr : Bool} {cs text rest : List Char} (h : read? inAttr cs = some (text, rest)) :
    rest <:+ cs := by
  unfold read? at h
  split at h
  · exact (numeric?_suffix h).trans ((List.suffix_cons _ _).trans (List.suffix_cons _ _))
  · exact (numeric?_suffix h).trans ((List.suffix_cons _ _).trans (List.suffix_cons _ _))
  · exact (numeric?_suffix h).trans (List.suffix_cons _ _)
  · exact named?_suffix h

end Reference

namespace Token

open Doctype (isSpace)

/-! ## Tags -/

theorem value_suffix (cs : List Char) : (value cs).2 <:+ cs := by
  have hspace := List.dropWhile_suffix (l := cs) isSpace
  unfold value
  simp only
  split
  · rename_i rest hrest
    rw [hrest] at hspace
    exact (List.drop_suffix _ _).trans ((List.suffix_cons _ _).trans hspace)
  · rename_i rest hrest
    rw [hrest] at hspace
    exact (List.drop_suffix _ _).trans ((List.suffix_cons _ _).trans hspace)
  · exact (List.drop_suffix _ _).trans hspace

theorem attributes_suffix : ∀ (fuel : Nat) (done : List (String × String)) (cs : List Char) {t : StartTag}
    {rest : List Char}, attributes fuel done cs = some (t, rest) → ∃ c, c :: rest <:+ cs
  | 0, _, _, _, _, h => nomatch h
  | fuel + 1, done, cs, t, rest, h => by
    unfold attributes at h
    split at h
    · cases h
    · cases h
      exact ⟨_, List.suffix_rfl⟩
    · cases h
      exact ⟨_, List.suffix_cons _ _⟩
    · rename_i c cs _ _
      split at h
      · obtain ⟨d, hd⟩ := attributes_suffix fuel done cs h
        exact ⟨d, hd.trans (List.suffix_cons c cs)⟩
      · extract_lets more name behind add at h
        have hbehind : behind <:+ c :: cs := (List.drop_suffix _ _).trans (List.suffix_cons c cs)
        have hspace := (List.dropWhile_suffix isSpace).trans hbehind
        split at h
        · rename_i after hafter
          rw [hafter] at hspace
          split at h
          · obtain ⟨d, hd⟩ := attributes_suffix fuel _ _ h
            exact ⟨d, hd.trans ((value_suffix after).trans ((List.suffix_cons _ _).trans hspace))⟩
          · cases h
        · obtain ⟨d, hd⟩ := attributes_suffix fuel _ _ h
          exact ⟨d, hd.trans hspace⟩

theorem tag?_suffix {cs rest : List Char} {t : StartTag} (h : tag? cs = some (t, rest)) : ∃ c, c :: rest <:+ cs := by
  unfold tag? at h
  obtain ⟨⟨t', rest'⟩, hattrs, heq⟩ := Option.map_eq_some_iff.1 h
  cases heq
  obtain ⟨c, hc⟩ := attributes_suffix _ _ _ hattrs
  exact ⟨c, hc.trans (List.drop_suffix _ _)⟩

/-! ## Comments and declarations -/

theorem commentBody_suffix (cs : List Char) : (commentBody cs).2 <:+ cs := by
  fun_induction commentBody cs with
  | case1 => exact List.suffix_rfl
  | case2 rest => exact List.suffix_append ['-', '-', '>'] rest
  | case3 rest => exact List.suffix_append ['-', '-', '!', '>'] rest
  | case4 c cs _ _ r ih => exact ih.trans (List.suffix_cons c cs)

theorem wholeComment_suffix (cs : List Char) : (wholeComment cs).2 <:+ cs := by
  unfold wholeComment
  split
  · exact List.suffix_cons _ _
  · exact (List.suffix_cons _ _).trans (List.suffix_cons _ _)
  · split
    · exact commentBody_suffix cs
    · exact List.nil_suffix

theorem bogusComment_suffix (cs : List Char) : (bogusComment cs).2 <:+ cs := List.drop_suffix _ _

theorem doctypeOf_suffix (cs : List Char) : (doctypeOf cs).2 <:+ cs := by
  unfold doctypeOf
  simp only
  split
  · rename_i hrest
    exact Text.suffix_of_drop hrest
  · exact List.nil_suffix

theorem characterSection_suffix (cs : List Char) : (characterSection cs).2 <:+ cs := by
  unfold characterSection
  split
  · rename_i hcut
    obtain ⟨rfl, -⟩ := (Text.cut?_eq_some_iff (by decide)).1 hcut
    exact ⟨_, List.append_assoc ..⟩
  · exact List.nil_suffix

/-! ## The next token -/

/-- The token is the end, or there is less text behind it. -/
def Takes (cs : List Char) (p : Token × List Char) : Prop := p.1 = .eof ∨ p.2.length < cs.length

theorem Takes.cons {cs : List Char} {p : Token × List Char} (h : Takes cs p) (c : Char) : Takes (c :: cs) p :=
  h.imp_right Nat.lt_succ_of_lt

theorem takes_of_suffix {c : Char} {cs : List Char} {p : Token × List Char} (h : p.2 <:+ cs) : Takes (c :: cs) p :=
  .inr (Nat.lt_succ_of_le h.length_le)

theorem takes_tag {cs rest : List Char} {t : StartTag} (h : tag? cs = some (t, rest)) (token : Token) :
    Takes cs (token, rest) := by
  obtain ⟨c, hc⟩ := tag?_suffix h
  exact .inr hc.length_le

theorem takes_run {c : Char} (h : isMark c = false) (cs : List Char) : Takes (c :: cs) (run isMark (c :: cs)) := by
  unfold run
  extract_lets isBlank r
  have hr : r = c :: cs.takeWhile fun d => !isMark d && isSpace d == isBlank :=
    List.takeWhile_cons_of_pos (by simp [h, isBlank])
  have hdrop : (c :: cs).drop r.length <:+ cs := by
    rw [hr]
    exact List.drop_suffix _ cs
  exact takes_of_suffix hdrop

theorem takes_markup (sections : Bool) (cs : List Char) : Takes cs (markup sections cs) := by
  fun_cases markup sections cs with
  | case1 => exact .inl rfl
  | case2 => exact takes_of_suffix List.nil_suffix
  | case3 rest => exact (takes_of_suffix (List.suffix_cons '>' rest)).cons '<'
  | case4 c cs _ _ t rest h =>
    rw [h]
    exact ((takes_tag h _).cons '/').cons '<'
  | case5 c cs _ _ h =>
    rw [h]
    exact .inl rfl
  | case6 c cs _ _ => exact (takes_of_suffix (bogusComment_suffix (c :: cs))).cons '<'
  | case7 rest => exact (((takes_of_suffix (wholeComment_suffix rest)).cons '-').cons '!').cons '<'
  | case8 rest _ _ =>
    exact (takes_of_suffix ((doctypeOf_suffix _).trans (List.drop_suffix 7 rest))).cons '<'
  | case9 rest _ _ _ =>
    exact (takes_of_suffix ((characterSection_suffix _).trans (List.drop_suffix 7 rest))).cons '<'
  | case10 rest _ _ _ => exact (takes_of_suffix (bogusComment_suffix rest)).cons '<'
  | case11 c rest _ _ _ _ => exact takes_of_suffix (bogusComment_suffix (c :: rest))
  | case12 c cs _ _ t rest _ _ _ h =>
    rw [h]
    exact (takes_tag h _).cons '<'
  | case13 c cs _ _ _ _ _ h =>
    rw [h]
    exact .inl rfl
  | case14 c rest _ _ _ _ _ => exact takes_of_suffix List.suffix_rfl
  | case15 => exact takes_of_suffix List.suffix_rfl
  | case16 cs text rest h => exact takes_of_suffix (Reference.read?_suffix h)
  | case17 rest h => exact takes_of_suffix List.suffix_rfl
  | case18 c rest _ _ _ _ _ _ => exact takes_of_suffix List.suffix_rfl
  | case19 c rest hend hcomment hdecl hopen hamp hnull =>
    have hmark : isMark c = false := by
      unfold isMark
      simp [hnull, show c ≠ '<' from hopen, show c ≠ '&' from hamp]
    exact takes_run hmark rest

/-! ## Text up to an end tag -/

theorem upTo_append (name : String) : ∀ cs : List Char, (upTo name cs).1 ++ (upTo name cs).2 = cs
  | [] => rfl
  | c :: cs => by
    unfold upTo
    split
    · rfl
    · exact congrArg (c :: ·) (upTo_append name cs)

theorem upToScriptEnd_append (name : String) : ∀ (depth : Depth) (dashes : Nat) (cs : List Char),
    (upToScriptEnd name depth dashes cs).1 ++ (upToScriptEnd name depth dashes cs).2 = cs
  | _, _, [] => by
    unfold upToScriptEnd
    rfl
  | depth, dashes, c :: cs => by
    unfold upToScriptEnd
    split
    · rfl
    · exact congrArg (c :: ·) (upToScriptEnd_append name _ _ cs)

theorem takes_element (name : String) {text : List Char × List Char} {cs : List Char} (h : text.1 ++ text.2 = cs)
    (resolve : List Char → List Char) : Takes cs (element name text resolve) := by
  subst h
  unfold element
  split
  · exact .inl rfl
  · rename_i rest hrest
    split
    · rename_i t rest' htag
      obtain ⟨c, hc⟩ := tag?_suffix htag
      exact .inr (hc.trans (List.drop_suffix 2 rest)).length_le
    · exact .inl rfl
  · rename_i cs rest _ hne
    cases cs with
    | nil => exact (hne rfl).elim
    | cons c cs => exact takes_of_suffix (List.suffix_append cs rest)

/-- **Behind a token there is less text than before it**, but for the end. -/
theorem takes_next (reading : Reading) (sections : Bool) (cs : List Char) : Takes cs (next reading sections cs) := by
  cases reading with
  | markup => exact takes_markup sections cs
  | escapable name => exact takes_element name (upTo_append name cs) _
  | raw name => exact takes_element name (upTo_append name cs) _
  | script name => exact takes_element name (upToScriptEnd_append name .outside 0 cs) _
  | plain =>
    cases cs with
    | nil => exact .inl rfl
    | cons c cs => exact takes_of_suffix List.nil_suffix

end Token

end Harvest.Markup
