import Harvest.Host
import Harvest.Proofs.Extract.Session
import Harvest.Proofs.Filter.Registry
import Harvest.Proofs.Json.Control
import Harvest.Proofs.Spec.RoundTrip
import Harvest.Proofs.Text.Find
import Harvest.Proofs.Text.Utf8
/-!
# What a host gets

A call ends in the JSON text of the value, in the message of its first failure, or with the process (`pipe_exact`).  No
other way is left: the built-in filters are always registered (`registry_eq`), and no JSON text has a zero byte in it
(`answered_eq`).
-/
namespace Harvest

namespace Text.Utf8

/-- A character of ASCII that does not end a host's string. -/
def isAscii (c : Char) : Bool := 0 < c.toNat && c.toNat < 0x80

theorem toNat_ofNat_ascii {c : Char} (h : isAscii c = true) :
    (UInt8.ofNat c.toNat).toNat = c.toNat ∧ 0 < c.toNat ∧ c.toNat < 0x80 := by
  simp only [isAscii, Bool.and_eq_true, decide_eq_true_eq] at h
  rw [UInt8.toNat_ofNat']
  omega

theorem encode_ascii : ∀ {cs : List Char}, (∀ c ∈ cs, isAscii c = true) →
    encode cs = cs.map fun c => UInt8.ofNat c.toNat
  | [], _ => rfl
  | c :: cs, h => by
    obtain ⟨-, -, hc⟩ := toNat_ofNat_ascii (h c List.mem_cons_self)
    have hchar : encodeChar c = [UInt8.ofNat c.toNat] := if_pos hc
    have htail := encode_ascii fun d hd => h d (List.mem_cons_of_mem c hd)
    unfold encode at htail ⊢
    rw [List.flatMap_cons, hchar, htail]
    rfl

theorem ne_zero_of_mem_ofString {s : String} (h : s.toList.all isAscii = true) : ∀ b ∈ ofString s, b ≠ 0 := by
  have hall := List.all_eq_true.1 h
  unfold ofString
  rw [encode_ascii hall]
  rintro b hb rfl
  obtain ⟨c, hc, hzero⟩ := List.mem_map.1 hb
  obtain ⟨hbyte, hpos, -⟩ := toNat_ofNat_ascii (hall c hc)
  rw [hzero] at hbyte
  have : (0 : UInt8).toNat = 0 := rfl
  omega

end Text.Utf8

namespace Host

open Extract (Evaluator Page PageKind)
open Text.Utf8 (isAscii toString?_ofString ne_zero_of_mem_ofString)

theorem registry_eq (clock : Filter.Clock) : registry clock = .ok (Filter.builtin Unit clock) := by
  have hall := Filter.Remote.registerAll_free (r := Registry.empty) (Filter.nodup_builtin Unit clock) fun _ _ => rfl
  unfold registry
  rw [hall]
  rfl

/-! ## Replies -/

theorem not_mem_render (j : Json) : '\x00' ∉ j.render.toList := by
  intro hzero
  have hclear := Json.clear_write j
  unfold Json.render at hzero
  rw [String.toList_ofList] at hzero
  exact absurd (hclear _ hzero) (by decide)

/-- **A JSON text is always handed over.** -/
theorem answered_eq (j : Json) : answered j = ⟨some j.render, none⟩ := by
  have hzero : (j.render.toList.any fun c => c.toNat == 0) = false := by
    rw [List.any_eq_false]
    intro c hc hc0
    have hc' : c = '\x00' := Char.toNat_inj.1 (by simpa using hc0)
    exact not_mem_render j (hc' ▸ hc)
  unfold answered
  simp only [hzero]
  rfl

theorem failed_eq (m : String) : failed m = ⟨none, some (Text.replaceAllIn m "\x00" " ")⟩ := by
  have hmap : (m.toList.map fun c => if c.toNat == 0 then ' ' else c) = Text.replaceAll ['\x00'] [' '] m.toList := by
    rw [Text.replaceAll_singleton]
    refine List.map_congr_left fun c _ => ?_
    have hc : c.toNat = 0 ↔ c = '\x00' := Char.toNat_inj (d := '\x00')
    simp [hc]
  unfold failed
  rw [hmap]
  rfl

/-! ## Stages of a call -/

/-- The kind of page that a host's string names, or the message that says why it names none. -/
def kindOf (w : Wording) (kind : Option (List UInt8)) : Except String PageKind :=
  (text "page kind" kind).bind fun t => (PageKind.ofText t).mapError (ExtractError.message w)

/-- The spec that a host's string writes, or the message that says why it writes none. -/
def specOf (w : Wording) (spec : Option (List UInt8)) : Except String Spec :=
  (text "spec JSON" spec).bind fun t => (Spec.parse t).mapError (ExtractError.message w)

def evaluator (clock : Filter.Clock) : Evaluator Unit := { registry := Filter.builtin Unit clock }

section Call

variable (w : Wording) (clock : Filter.Clock) (body kind spec : Option (List UInt8))

/-- The kind and the spec can be read, and the evaluation on the body, which is empty if it is missing, ends so. -/
def Evaluates (r : Except ExtractError Value) : Prop :=
  ∃ k s, kindOf w kind = .ok k ∧ specOf w spec = .ok s ∧ ((evaluator clock).pipe s (body.getD []) k ()).1 = r

/-- The message of the first failure of a call: of the kind, of the spec, of the body, or of the evaluation. -/
inductive FirstFailure : String → Prop where
  | kind {m} : kindOf w kind = .error m → FirstFailure m
  | spec {k m} : kindOf w kind = .ok k → specOf w spec = .error m → FirstFailure m
  | body {k s err} : kindOf w kind = .ok k → specOf w spec = .ok s → Page.parse (body.getD []) k = .error err →
    FirstFailure (err.message w)
  | evaluation {k s page err} : kindOf w kind = .ok k → specOf w spec = .ok s → Page.parse (body.getD []) k = .ok page →
    ((evaluator clock).evaluate s page {} ()).1 = .error err → err.isPanic = false → FirstFailure (err.message w)

/-- **A call, stage by stage.** -/
theorem pipe_eq : pipe w clock body kind spec =
    match kindOf w kind with
    | .error m => .replied (failed m)
    | .ok k =>
      match specOf w spec with
      | .error m => .replied (failed m)
      | .ok s => ended w ((evaluator clock).pipe s (body.getD []) k ()).1 := by
  unfold pipe kindOf specOf evaluator
  cases text "page kind" kind with
  | error m => rfl
  | ok t =>
    cases hk : PageKind.ofText t with
    | error err => simp [Except.bind, Except.mapError, hk]
    | ok k =>
      cases text "spec JSON" spec with
      | error m => simp [Except.bind, Except.mapError, hk]
      | ok u =>
        cases hs : Spec.parse u with
        | error err => simp [Except.bind, Except.mapError, hk, hs]
        | ok s => simp [Except.bind, Except.mapError, hk, hs, withRegistry, registry_eq]

end Call

variable {w : Wording} {clock : Filter.Clock} {body kind spec : Option (List UInt8)} {f : String}
  {r : Except ExtractError Value}

theorem pipe_of_evaluates (h : Evaluates w clock body kind spec r) : pipe w clock body kind spec = ended w r := by
  obtain ⟨k, s, hk, hs, rfl⟩ := h
  rw [pipe_eq, hk, hs]

theorem isPanic_of_parse {bs : List UInt8} {k : PageKind} {err : ExtractError} (h : Page.parse bs k = .error err) :
    err.isPanic = false := by
  cases k with
  | html => cases h
  | text => cases h
  | json =>
    simp only [Page.parse] at h
    split at h
    · cases h
    · cases h
      rfl

theorem ended_error {err : ExtractError} (h : err.isPanic = false) :
    ended w (.error err) = .replied (failed (err.message w)) := by
  unfold ended
  simp [h]

theorem pipe_of_firstFailure (h : FirstFailure w clock body kind spec f) :
    pipe w clock body kind spec = .replied (failed f) := by
  cases h with
  | kind hk => rw [pipe_eq, hk]
  | spec hk hs => rw [pipe_eq, hk, hs]
  | @body k s err hk hs hbody =>
    have hpipe : ((evaluator clock).pipe s (body.getD []) k ()).1 = .error err := by
      unfold Evaluator.pipe
      rw [hbody]
    rw [pipe_of_evaluates ⟨k, s, hk, hs, hpipe⟩]
    exact ended_error (isPanic_of_parse hbody)
  | @evaluation k s page err hk hs hbody heval herr =>
    have hpipe := (Extract.pipe_eq (evaluator clock) s hbody ()).trans heval
    rw [pipe_of_evaluates ⟨k, s, hk, hs, hpipe⟩]
    exact ended_error herr

theorem firstFailure_or_evaluates (w : Wording) (clock : Filter.Clock) (body kind spec : Option (List UInt8)) :
    (∃ f, FirstFailure w clock body kind spec f) ∨
    (∃ v, Evaluates w clock body kind spec (.ok v)) ∨
      ∃ err, Evaluates w clock body kind spec (.error err) ∧ err.isPanic = true := by
  cases hk : kindOf w kind with
  | error m => exact .inl ⟨m, .kind hk⟩
  | ok k =>
    cases hs : specOf w spec with
    | error m => exact .inl ⟨m, .spec hk hs⟩
    | ok s =>
      cases hbody : Page.parse (body.getD []) k with
      | error err => exact .inl ⟨err.message w, .body hk hs hbody⟩
      | ok page =>
        have hpipe := Extract.pipe_eq (evaluator clock) s hbody ()
        cases heval : ((evaluator clock).evaluate s page {} ()).1 with
        | ok v => exact .inr (.inl ⟨v, k, s, hk, hs, hpipe.trans heval⟩)
        | error err =>
          cases herr : err.isPanic with
          | false => exact .inl ⟨err.message w, .evaluation hk hs hbody heval herr⟩
          | true => exact .inr (.inr ⟨err, ⟨k, s, hk, hs, hpipe.trans heval⟩, herr⟩)

/-! ## A call that brings the process down -/

theorem text_ascii (what : String) {s : String} (h : s.toList.all isAscii = true) :
    text what (some (Text.Utf8.ofString s)) = .ok s := by
  have hkept : (Text.Utf8.ofString s).takeWhile (· != 0) = Text.Utf8.ofString s := by
    rw [List.takeWhile_eq_self_iff]
    intro b hb
    simpa using ne_zero_of_mem_ofString h b hb
  unfold text
  simp only [hkept, toString?_ofString]

-- The text of the spec is computed, but reading it is not: `parse_render_of_classified` says what comes of it.
theorem specOf_uproot (w : Wording) :
    specOf w (some (Text.Utf8.ofString (Spec.render Extract.uproot))) = .ok Extract.uproot := by
  have hrender : Spec.render Extract.uproot = "\x7b\"selector\":\"| rm(*)\",\"type\":\"html\"\x7d" := by decide
  have htext : text "spec JSON" (some (Text.Utf8.ofString (Spec.render Extract.uproot))) =
      .ok (Spec.render Extract.uproot) := by
    refine text_ascii _ ?_
    rw [hrender]
    decide
  have hall : Extract.uproot.All Spec.Classified := .node ⟨by decide, by decide⟩ fun c hc => nomatch hc
  have hparse : Spec.parse (Spec.render Extract.uproot) = .ok Extract.uproot := by
    rw [Spec.parse_render_of_classified hall, if_pos (by decide)]
  simp only [specOf, htext, Except.bind, hparse, Except.mapError]

theorem kindOf_html (w : Wording) : kindOf w (some (Text.Utf8.ofString "html")) = .ok .html := by
  have htext := text_ascii "page kind" (s := "html") (by decide)
  unfold kindOf
  rw [htext]
  rfl

theorem pipe_uproot (w : Wording) (clock : Filter.Clock) (body : Option (List UInt8)) :
    pipe w clock body (some (Text.Utf8.ofString "html")) (some (Text.Utf8.ofString (Spec.render Extract.uproot))) =
      .aborted := by
  obtain ⟨d, hparse, hd, -⟩ := Extract.parse_html (body.getD [])
  have hevaluates : Evaluates w clock body (some (Text.Utf8.ofString "html"))
      (some (Text.Utf8.ofString (Spec.render Extract.uproot))) (.error .rootless) := by
    refine ⟨.html, Extract.uproot, kindOf_html w, specOf_uproot w, ?_⟩
    rw [Extract.pipe_eq _ _ hparse]
    exact Extract.evaluate_uproot _ hd Extract.Cache.faithful_empty ()
  rw [pipe_of_evaluates hevaluates]
  rfl

/-- **What a host gets**, however the libraries word what they refuse.  The JSON text of the value exactly if kind and
spec can be read and the evaluation yields one; the message of the first failure, with spaces for its zero bytes,
exactly if there is one; and nothing, as the process goes down, exactly if the evaluation panics.  There is no fourth
way, no JSON text of a value has a zero byte in it, and on any body there is a spec that brings the process down. -/
theorem pipe_exact (w : Wording) (clock : Filter.Clock) (body kind spec : Option (List UInt8)) :
    (∀ t, pipe w clock body kind spec = .replied ⟨some t, none⟩ ↔
      ∃ v, Evaluates w clock body kind spec (.ok v) ∧ t = v.toJson.render) ∧
    (∀ m, pipe w clock body kind spec = .replied ⟨none, some m⟩ ↔
      ∃ f, FirstFailure w clock body kind spec f ∧ m = Text.replaceAllIn f "\x00" " ") ∧
    (pipe w clock body kind spec = .aborted ↔
      ∃ err, Evaluates w clock body kind spec (.error err) ∧ err.isPanic = true) ∧
    ((∃ t, pipe w clock body kind spec = .replied ⟨some t, none⟩) ∨
      (∃ m, pipe w clock body kind spec = .replied ⟨none, some m⟩) ∨ pipe w clock body kind spec = .aborted) ∧
    (∀ v : Value, '\x00' ∉ v.toJson.render.toList) ∧
    pipe w clock body (some (Text.Utf8.ofString "html")) (some (Text.Utf8.ofString (Spec.render Extract.uproot))) =
      .aborted := by
  have hvalue : ∀ v, Evaluates w clock body kind spec (.ok v) →
      pipe w clock body kind spec = .replied ⟨some v.toJson.render, none⟩ := by
    intro v hv
    rw [pipe_of_evaluates hv, ended, answered_eq]
  have hfailure : ∀ f, FirstFailure w clock body kind spec f →
      pipe w clock body kind spec = .replied ⟨none, some (Text.replaceAllIn f "\x00" " ")⟩ := by
    intro f hf
    rw [pipe_of_firstFailure hf, failed_eq]
  have hpanic : ∀ err, Evaluates w clock body kind spec (.error err) → err.isPanic = true →
      pipe w clock body kind spec = .aborted := by
    intro err herr hp
    rw [pipe_of_evaluates herr, ended, if_pos hp]
  have hends := firstFailure_or_evaluates w clock body kind spec
  refine ⟨fun t => ⟨fun h => ?_, ?_⟩, fun m => ⟨fun h => ?_, ?_⟩, ⟨fun h => ?_, ?_⟩, ?_, fun v => not_mem_render _,
    pipe_uproot w clock body⟩
  · rcases hends with ⟨f, hf⟩ | ⟨v, hv⟩ | ⟨err, herr, hp⟩
    · cases (hfailure f hf).symm.trans h
    · cases (hvalue v hv).symm.trans h
      exact ⟨v, hv, rfl⟩
    · cases (hpanic err herr hp).symm.trans h
  · rintro ⟨v, hv, rfl⟩
    exact hvalue v hv
  · rcases hends with ⟨f, hf⟩ | ⟨v, hv⟩ | ⟨err, herr, hp⟩
    · cases (hfailure f hf).symm.trans h
      exact ⟨f, hf, rfl⟩
    · cases (hvalue v hv).symm.trans h
    · cases (hpanic err herr hp).symm.trans h
  · rintro ⟨f, hf, rfl⟩
    exact hfailure f hf
  · rcases hends with ⟨f, hf⟩ | ⟨v, hv⟩ | hp
    · cases (hfailure f hf).symm.trans h
    · cases (hvalue v hv).symm.trans h
    · exact hp
  · rintro ⟨err, herr, hp⟩
    exact hpanic err herr hp
  · rcases hends with ⟨f, hf⟩ | ⟨v, hv⟩ | ⟨err, herr, hp⟩
    · exact .inr (.inl ⟨_, hfailure f hf⟩)
    · exact .inl ⟨_, hvalue v hv⟩
    · exact .inr (.inr (hpanic err herr hp))

end Host

end Harvest
