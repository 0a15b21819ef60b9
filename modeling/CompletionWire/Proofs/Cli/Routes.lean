import CompletionWire.Proofs.Cli.FixedPoint
import CompletionWire.Proofs.Response.LineEnds

/-!
# The routes of a response to the parser

A response is parsed from the input or from a file. Its line ends are made one on the way, which the
library does not do, and still the command has the outcome of the library: the same generations, or
the same failure of a payload that may have another size. Where bytes are valid on both routes, it
does not matter which one they take.
-/

namespace CompletionWire

namespace Cli

/-- These bytes can be taken in under this name: a file has to be valid, the input does not. -/
def Admits (name : Text) (bytes : Bytes) : Prop :=
  name ≠ text "-" → ∃ t, Utf8.decode? false bytes = .ok t

theorem readsInput_of_supplies {w : Surroundings} {bytes : Bytes} {name : Text}
    (h : Supplies w bytes name) (hvalid : Admits name bytes) :
    ReadsInput w name (.ok (Utf8.decodeEscaping bytes).unifyLineEnds) := by
  cases h with
  | input h => exact h ▸ .input
  | file hname h =>
    obtain ⟨t, ht⟩ := hvalid hname.1
    rw [Utf8.decodeEscaping_of_decode? ht]
    exact .file hname h ht

/-- What a parse comes to depends on its adaptor and its bytes, not on where these come from. -/
theorem source_of_supplies {w : Surroundings} {bytes : Bytes} {a : ParseArgs}
    (h : Supplies w bytes a.input) (hvalid : Admits a.input bytes) (s : Settings) :
    a.source s w =
      (backend? a.adaptor? s).map ((Utf8.decodeEscaping bytes).unifyLineEnds, ·) := by
  rw [ParseArgs.source, readsInput_iff.1 (readsInput_of_supplies h hvalid)]
  cases backend? a.adaptor? s <;> rfl

theorem run_parse {w : Surroundings} {args : List Text} {invocation : Invocation} {a : ParseArgs}
    (hargs : Invocation.ofArgs args = .ok invocation)
    (hc : invocation.command? = some (.parse a)) :
    run w args = (runParse a (.ofEnvironment w.environment) w).outcome invocation.verbose := by
  simp only [run, hargs, hc, Command.run]

/-- Parsing bytes comes to what reading their text comes to, though line ends are made one on the
way: the same generations are printed, or the same failure is reported, but for the size of its
payload, and no event differs but in this size and in the place of the fault of what is not JSON.
The same bytes come to the same on another route. -/
theorem parse_eq_read {w : Surroundings} {args : List Text} {invocation : Invocation}
    {a : ParseArgs} {bytes : Bytes} (hargs : Invocation.ofArgs args = .ok invocation)
    (hc : invocation.command? = some (.parse a)) (hinput : Supplies w bytes a.input)
    (hvalid : Admits a.input bytes) :
    let t := Utf8.decodeEscaping bytes
    let size := Response.payloadSize t.unifyLineEnds
    (∀ b?, NamesBackend (a.adaptor?.or (Settings.ofEnvironment w.environment).adaptorTag?) (.ok b?) →
      ∃ events, List.Forall₂ (Response.Retold size) (Response.read b? t).events events ∧
        run w args =
          (Conduct.ofLogged ⟨events, ((Response.read b? t).value.mapError
            (Mishap.resized size)).map generationsJson⟩).outcome invocation.verbose) ∧
    ∀ w' args' invocation' a', Invocation.ofArgs args' = .ok invocation' →
      invocation'.command? = some (.parse a') → invocation'.verbose = invocation.verbose →
      w'.environment = w.environment → a'.adaptor? = a.adaptor? →
      Supplies w' bytes a'.input → Admits a'.input bytes → run w' args' = run w args := by
  intro t size
  constructor
  · intro b? hb
    obtain ⟨hevents, hvalue⟩ :=
      Response.read_of_sameLines b? (Text.sameLines_unifyLineEnds t)
    refine ⟨_, hevents, ?_⟩
    rw [run_parse hargs hc, runParse, source_of_supplies hinput hvalid, namesBackend_iff.1 hb,
      ← hvalue]
    rfl
  · intro w' args' invocation' a' hargs' hc' hverbose henvironment hadaptor hinput' hvalid'
    rw [run_parse hargs hc, run_parse hargs' hc', runParse, runParse,
      source_of_supplies hinput hvalid, source_of_supplies hinput' hvalid', hverbose,
      henvironment, hadaptor]

/-- A carriage return and a line feed between two braces are four bytes with the braces, and three
once they are one line end. From a file they come to the same as from the input. -/
theorem parse_eq_read_two_routes :
    let t := text "\x7b\r\n\x7d"
    let name := text "r.json"
    let w : Surroundings := ⟨[], [], t.utf8, fun _ => .contents t.utf8, []⟩
    let failure (size : Int) : Failure := .unexpectedShape .huggingFace size none
    (Response.read none t).value = .error (.failure (failure 4)) ∧
      (run w [text "parse"]).errors = errorLine (failure 3).report ∧
      run w [text "parse", name] = run w [text "parse"] := by
  intro t name w failure
  have hargs : Invocation.ofArgs [text "parse"] = .ok { command? := some (.parse {}) } := by rfl
  have hargs' : Invocation.ofArgs [text "parse", name] =
      .ok { command? := some (.parse { input := name }) } := by rfl
  have hunicode : t.IsUnicode := by decide
  have hfile : IsFileName name := by
    unfold IsFileName name
    decide
  have hread : Response.read none t = .silent (.error (.failure (failure 4))) := by
    unfold t failure
    cbv
  have hsize : Response.payloadSize t.unifyLineEnds = 3 := by decide
  obtain ⟨hbackend, hroutes⟩ := parse_eq_read (w := w) hargs rfl (.input rfl) fun h => absurd rfl h
  obtain ⟨events, hevents, hrun⟩ := hbackend none .none
  rw [Utf8.decodeEscaping_utf8 hunicode, hread] at hevents hrun
  cases hevents
  refine ⟨congrArg Logged.value hread, ?_, ?_⟩
  · rw [hrun, hsize]
    rfl
  · exact hroutes w _ _ _ hargs' rfl rfl rfl rfl (.file hfile rfl) fun _ =>
      ⟨t, Utf8.decode?_utf8 hunicode⟩

/-- Behind a carriage return the first line goes on, but behind the line feed that it is made a
second one has begun. So the complaint about what is not JSON gives another place than it would
untouched, though the size of the payload is the same. -/
theorem parse_moves_place :
    let bytes := (text "\rx").utf8
    let t := Utf8.decodeEscaping bytes
    let w : Surroundings := ⟨[], [], bytes, fun _ => .missing, []⟩
    let o := run w (["--verbose", "parse"].map text)
    let untouched :=
      (Conduct.ofLogged ((Response.read none t).map (·.map generationsJson))).outcome true
    let shown (place : String) :=
      text "llm_adaptors.adaptors.common huggingface response is not JSON (2 bytes): " ++
        (text "Expecting value: " ++ (text place ++
          text "\nError: [huggingface] huggingface response is not valid JSON (2 bytes)\n"))
    Response.payloadSize t.unifyLineEnds = Response.payloadSize t ∧
      untouched.errors = shown "line 1 column 2 (char 1)" ∧
      o.errors = shown "line 2 column 1 (char 1)" ∧ o.errors ≠ untouched.errors := by
  intro bytes t w o untouched shown
  have ht : t = text "\rx" := Utf8.decodeEscaping_utf8 (by decide)
  have huntouched : untouched.errors = shown "line 1 column 2 (char 1)" := by
    unfold untouched shown
    rw [ht]
    cbv
  have ho : o.errors = shown "line 2 column 1 (char 1)" := by
    have hargs : Invocation.ofArgs (["--verbose", "parse"].map text) =
        .ok { verbose := true, command? := some (.parse {}) } := by rfl
    have hsource : ParseArgs.source {} (.ofEnvironment []) w = .ok (text "\nx", none) := by
      have hinput : Supplies w bytes (text "-") := .input rfl
      rw [source_of_supplies hinput fun h => absurd rfl h,
        show Utf8.decodeEscaping bytes = _ from ht]
      rfl
    unfold o shown
    rw [run_parse hargs rfl, runParse, hsource]
    cbv
  refine ⟨by rw [ht]; decide, huntouched, ho, ?_⟩
  rw [huntouched, ho]
  intro h
  have hplaces := List.append_cancel_right
    (List.append_cancel_left (List.append_cancel_left h))
  exact absurd hplaces (by decide)

end Cli

end CompletionWire
