import CompletionWire.Proofs.Cli.Commands
import CompletionWire.Proofs.Json.Alphabet
import CompletionWire.Proofs.Json.NonFinite
import CompletionWire.Proofs.Request.OnTheWire

/-!
# What commands print

A command that succeeds prints its document in ASCII. Whether this is JSON depends on the numbers
alone: if all of them are finite, it is loaded as the document with surrogate pairs joined, and if
one is not, no reader of JSON takes it. Only the body of a request can have such a number, which is
its temperature, its limit on probabilities, or a number within the model that it tells.
-/

namespace CompletionWire

/-! ### Loading what was printed -/

def Cli.printed (doc : Json) : Text := doc.write .indented ++ text "\n"

namespace Response

open Cli (printed)

theorem load_printed_ne_tooDeep (backend : Backend) {doc : Json} (hdepth : doc.depth ≤ 990) :
    (load backend (printed doc)).value ≠ .error (.abort .tooDeep) := by
  intro h
  have hlt := Json.Reader.lt_nesting_of_document rfl (load_eq_tooDeep_iff.1 h)
  have hle := Json.nesting_write_le Json.Style.lawful_indented doc (b := text "\n") (by decide)
  exact absurd (hlt.trans_le (hle.trans hdepth)) (Nat.lt_irrefl _)

/-- A document that fits is loaded from what is printed of it if its numbers are finite. -/
theorem load_printed (backend : Backend) {doc : Json} (hdoc : doc.Fits (some 4300) 990)
    (hfinite : doc.isFinite = true) :
    (load backend (printed doc)).value = .ok (doc.mapTexts Text.joined) := by
  have hwellFormed := Json.wellFormed_iff.2 ⟨hdoc.orderly, hfinite⟩
  have hread := Json.document_write (admit_rules hwellFormed hdoc.depth_le)
    Json.Style.lawful_indented (b := text "\n") (by decide)
  exact load_eq_ok_iff.2 hread

theorem load_printed_of_not_isFinite (backend : Backend) {doc : Json} (hdepth : doc.depth ≤ 990)
    (hfinite : doc.isFinite = false) :
    (load backend (printed doc)).value =
      .error (.failure (.malformedResponse backend (payloadSize (printed doc)))) := by
  rcases load_cases backend (printed doc) with ⟨v, hv⟩ | hdeep | hmalformed
  · have hdocument := Json.Reader.isDocument_of_document rfl (load_eq_ok_iff.1 hv)
    have htrue := Json.isFinite_of_isDocument Json.Style.lawful_indented hdocument
    rw [hfinite] at htrue
    cases htrue
  · exact absurd hdeep (load_printed_ne_tooDeep backend hdepth)
  · exact hmalformed

end Response

/-! ### Printing -/

namespace Cli

theorem isFinite_generationsJson (gs : List Generation) : (generationsJson gs).isFinite = true := by
  rw [generationsJson, Json.isFinite, Json.itemsFinite_eq, List.all_map]
  exact List.all_eq_true.2 fun _ _ => rfl

theorem isFinite_headersJson (hs : Headers) : (headersJson hs).isFinite = true := by
  rw [headersJson, Json.isFinite, Json.membersFinite_eq, List.all_map]
  exact List.all_eq_true.2 fun _ _ => rfl

variable {w : Surroundings} {s : Settings}

/-- The numbers of a document are finite unless it is the body of a request that tells others. -/
theorem isFinite_of_yields_iff {c : Command} {doc : Json} (h : Yields w s c (.ok doc)) :
    doc.isFinite = true ↔
      ∀ a p, c = .body a → GivesParams a s (.ok p) → p.TellsFinite := by
  generalize hr : Except.ok doc = r at h
  cases h with
  | @body a p b hp h =>
    rw [Except.ok.inj hr, Request.isFinite_body_iff h]
    refine ⟨fun hfinite a' p' ha hp' => ?_, fun hfinite => hfinite a p rfl hp⟩
    obtain rfl := Command.body.inj ha
    have hsame := (givesParams_iff.1 hp).symm.trans (givesParams_iff.1 hp')
    exact Except.ok.inj hsame ▸ hfinite
  | headers hb he h =>
    obtain ⟨hs, -, rfl⟩ := exists_of_map_eq_ok hr.symm
    exact iff_of_true (isFinite_headersJson hs) fun _ _ hbody => nomatch hbody
  | parse ht hb h | complete hp he hmodel h =>
    obtain ⟨gs, -, rfl⟩ := exists_of_map_eq_ok hr.symm
    exact iff_of_true (isFinite_generationsJson gs) fun _ _ hbody => nomatch hbody
  | bodyParams | bodyFailure | headersBackend | headersEditor | parseInput | parseBackend
  | completeParams | completeEditor | completeModel => cases hr

/-- A command line that succeeds prints the document of its command, in ASCII and with a line end
behind it. This is loaded as that document, with surrogate pairs joined, if the numbers of the
document are finite, and it is malformed if not. They are finite unless the command prints a body
that tells others. -/
theorem printed_loads_iff_finite {args : List Text} {invocation : Invocation} {c : Command}
    (hargs : Invocation.ofArgs args = .ok invocation) (hc : invocation.command? = some c)
    (hexit : (run w args).exit = .ok 0) :
    let s := Settings.ofEnvironment w.environment
    let output := (run w args).output
    ∃ doc, Yields w s c (.ok doc) ∧ output = doc.write .indented ++ text "\n" ∧
      (∀ u ∈ output, u.val < 0x80) ∧
      (doc.isFinite = true ↔ ∀ a p, c = .body a → GivesParams a s (.ok p) → p.TellsFinite) ∧
      (doc.isFinite = true → ∀ backend,
        (Response.load backend output).value = .ok (doc.mapTexts Text.joined)) ∧
      (doc.isFinite = false → ∀ backend,
        (Response.load backend output).value =
          .error (.failure (.malformedResponse backend (Response.payloadSize output)))) := by
  intro s output
  have hrun : run w args = (c.run w).outcome invocation.verbose := by
    simp only [run, hargs, hc]
  have hshows : (run w args).Shows (c.run w).result := hrun ▸ shows_outcome invocation.verbose _
  obtain ⟨doc, hresult⟩ := (exit_of_shows hshows).1.1 hexit
  have hyields : Yields w s c (.ok doc) := yields_iff.2 hresult
  have hfits : doc.Fits (some 4300) 990 := fits_of_yields (hasCount_of_args hargs hc) hyields
  have houtput : output = printed doc := by
    rw [hresult] at hshows
    exact hshows.2
  refine ⟨doc, hyields, houtput, ?_, isFinite_of_yields_iff hyields, ?_, ?_⟩
  · have hascii : ∀ u ∈ doc.write .indented, u.val < 0x80 :=
      Json.forall_mem_write (P := fun u => u.val < 0x80) (fun _ h => h) Json.Style.lawful_indented
        fun h => absurd h (by decide)
    rw [houtput]
    exact List.forall_mem_append.2 ⟨hascii, by decide⟩
  · intro hfinite backend
    rw [houtput]
    exact Response.load_printed backend hfits hfinite
  · intro hfinite backend
    rw [houtput]
    exact Response.load_printed_of_not_isFinite backend hfits.depth_le hfinite

/-- The body of a prompt, with the parameters that go without saying, is loaded as it is. -/
theorem printed_loads_iff_finite_plain :
    let w : Surroundings := ⟨[], [], [], fun _ => .missing, []⟩
    let o := run w (["body", "--prompt", "Grüß dich 😀"].map text)
    let body := Request.textGenerationBody (.text (text "Grüß dich 😀")) {}
    o.exit = .ok 0 ∧ ∀ backend, (Response.load backend o.output).value = .ok (.object body) := by
  intro w o body
  let a : GenerationArgs := { prompt? := some (.text (text "Grüß dich 😀")) }
  have hargs : Invocation.ofArgs (["body", "--prompt", "Grüß dich 😀"].map text) =
      .ok { command? := some (.body a) } := by rfl
  have hexit : o.exit = .ok 0 := by rfl
  obtain ⟨doc, hyields, -, -, hfinite, hload, -⟩ := printed_loads_iff_finite hargs rfl hexit
  have hresult : ((Command.body a).run w).result = .ok (.object body) := by rfl
  obtain rfl := Except.ok.inj (hresult.symm.trans (yields_iff.1 hyields))
  exact ⟨hexit, hload (by decide +kernel)⟩

/-- With a temperature that is no number, a body is printed that nothing is loaded from, and the
exit code is that of success. -/
theorem printed_nan_not_loaded :
    let w : Surroundings := ⟨[], [], [], fun _ => .missing, []⟩
    let o := run w (["body", "--prompt", "hi", "--temperature", "nan"].map text)
    o.exit = .ok 0 ∧ (∀ backend v, (Response.load backend o.output).value ≠ .ok v) := by
  intro w o
  let body := Request.textGenerationBody (.text (text "hi")) { temperature := .nan }
  have houtput : o.output = printed (.object body) := by rfl
  refine ⟨by rfl, fun backend v hv => ?_⟩
  have hdocument := Json.Reader.isDocument_of_document rfl (Response.load_eq_ok_iff.1 hv)
  rw [houtput] at hdocument
  exact absurd (Json.isFinite_of_isDocument Json.Style.lawful_indented hdocument) (by decide)

end Cli

end CompletionWire
