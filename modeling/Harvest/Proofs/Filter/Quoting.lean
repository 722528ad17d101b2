import Harvest.Filter.Chain
import Harvest.Proofs.Filter.Leaves
import Harvest.Proofs.Filter.Registry
import Harvest.Proofs.Text.Quoted
import Harvest.Proofs.Traversal
/-!
# Quoting values and back

A rewriting of texts that another one undoes is undone on all the strings of a value at once (`mapStrings_cancel`).
Quoting is such a rewriting, so that its filter with that of the way back behind it leaves every value as it was.
-/
namespace Harvest

namespace Value

variable {f g : String → Except FilterError String}

/-- **What is undone on every text is undone on every value.** -/
theorem mapStrings_cancel (h : ∀ s, ∃ t, f s = .ok t ∧ g t = .ok s) (v : Value) :
    ∃ w, v.mapStrings f = .ok w ∧ w.mapStrings g = .ok v := by
  have hback : ∀ s ∈ v.leaves, ∃ t, g t = .ok s ∧ f s = .ok t := fun s _ => (h s).imp fun _ ht => ⟨ht.2, ht.1⟩
  obtain ⟨texts, htexts, hf⟩ := mapM_of_forall v.leaves hback
  have hlength : texts.length = v.leaves.length := htexts.length_eq.symm
  have hg : texts.mapM g = .ok v.leaves := mapM_eq_ok.2 htexts.flip
  refine ⟨v.withLeaves texts, ?_, ?_⟩
  · rw [mapStrings, mapStringsM_eq, hf]
    rfl
  · rw [mapStrings, mapStringsM_eq, v.leaves_withLeaves hlength, hg]
    exact congrArg Except.ok (v.withLeaves_undo hlength)

end Value

namespace Filter

open Text.Quoted (isControl backslashes)

variable {σ : Type}

/-- **The filter of the way back undoes that of quoting**, whatever the value. -/
theorem quote_unquote (v : Value) (params params' : String) :
    ∃ w, quote v params = .ok w ∧ unquote w params' = .ok v := by
  refine Value.mapStrings_cancel (fun s => ⟨Text.Quoted.quote s, rfl, ?_⟩) v
  rw [Text.Quoted.unquote_quote]

theorem apply_quote (clock : Clock) (v : Value) (params : String) (s : σ) :
    (builtin σ clock).apply "quote" v params s = (quote v params, s) :=
  apply_transform (f := .stateless "quote" "Wrap in double quotes, escaping as needed" "quote" quote)
    (by simp [transforms]) v params s

theorem apply_unquote (clock : Clock) (v : Value) (params : String) (s : σ) :
    (builtin σ clock).apply "unquote" v params s = (unquote v params, s) :=
  apply_transform (f := .stateless "unquote" "Remove surrounding double quotes and decode escapes" "unquote" unquote)
    (by simp [transforms]) v params s

theorem chain_quote_unquote (clock : Clock) (v : Value) (s : σ) :
    Chain.apply (builtin σ clock) v "quote|unquote" s = (.ok v, s) := by
  obtain ⟨w, hquote, hunquote⟩ := quote_unquote v "" ""
  have hparse : Call.parse "quote|unquote" = [⟨"quote", ""⟩, ⟨"unquote", ""⟩] := by decide
  simp only [Chain.apply, hparse, Chain.run, apply_quote, apply_unquote, hquote, hunquote]

/-- **Quoting is undone**: a text is read back from its quoted form; no control character is left in that form, and
every quote between its outer quotes stands behind an odd number of backslashes; and on the built-in filters the chain
of both leaves every value, and the state, as it was. -/
theorem quoting_undone :
    (∀ s : String, Text.Quoted.unquote (Text.Quoted.quote s) = .ok s ∧
      (∀ c ∈ (Text.Quoted.quote s).toList, isControl c = false) ∧
      ∃ inner, (Text.Quoted.quote s).toList = '"' :: (inner ++ ['"']) ∧
        ∀ before behind, inner = before ++ '"' :: behind → backslashes before % 2 = 1) ∧
    ∀ {σ : Type} (clock : Clock) (v : Value) (s : σ),
      Chain.apply (builtin σ clock) v "quote|unquote" s = (.ok v, s) := by
  refine ⟨fun s => ⟨Text.Quoted.unquote_quote s, fun c hc => ?_, s.toList.flatMap Text.Quoted.encodeChar, ?_, ?_⟩,
    fun clock v s => chain_quote_unquote clock v s⟩
  · rw [Text.Quoted.quote, String.toList_ofList] at hc
    exact Text.Quoted.isControl_of_mem_encode hc
  · exact String.toList_ofList
  · exact fun before behind h => Text.Quoted.odd_backslashes s.toList h

/-- The quote of a text of one quote stands behind one backslash. -/
theorem quoting_undone_quote : isControl '"' = false ∧ ∃ inner, inner = ['\\', '"'] ∧ backslashes ['\\'] % 2 = 1 := by
  obtain ⟨-, hcontrol, inner, hinner, hodd⟩ := quoting_undone.1 "\""
  have htext : (Text.Quoted.quote "\"").toList = '"' :: (['\\', '"'] ++ ['"']) := by decide
  have heq : inner = ['\\', '"'] := List.append_cancel_right (List.cons.inj (hinner.symm.trans htext)).2
  exact ⟨hcontrol '"' (by rw [htext]; decide), inner, heq, hodd ['\\'] [] heq⟩

end Filter

end Harvest
