import CompletionWire.Cli.Run
import CompletionWire.Proofs.Json.Alphabet
import CompletionWire.Proofs.Json.Limits
import CompletionWire.Proofs.Response.Loading

/-!
# Loading what was written

A value that is written and loaded again comes back as it was, its members in their order, unless
all was written in ASCII and a text of it holds a surrogate pair: the two escapes are then taken for
those of one code point, and another value comes back.
-/

namespace CompletionWire

namespace Request

variable {body : Members}

theorem wireText_of_writeFault? {fault : Json.WriteFault}
    (h : (Json.object body).writeFault? wireLimits = some fault) :
    wireText body = .error (.ofWriteFault fault) := by
  simp only [wireText, h]

theorem wireText_of_encode?_error (h : (Json.object body).IsWritable wireLimits)
    {run : LoneSurrogates} (hrun : ((Json.object body).write .compact).encode? = .error run) :
    wireText body = .error (.rejection (.notUnicode run)) := by
  simp only [wireText, (Json.writeFault?_eq_none_iff (by decide)).2 h, hrun]

/-- A body is sent as it is written if its numbers, its nesting and its texts allow it. -/
theorem wireText_eq_ok_iff {written : Text} :
    wireText body = .ok written ↔ (Json.object body).IsWritable wireLimits ∧
      ((Json.object body).write .compact).IsUnicode ∧ written = (Json.object body).write .compact := by
  rw [← Json.writeFault?_eq_none_iff (by decide), wireText]
  cases (Json.object body).writeFault? wireLimits with
  | some fault => simp
  | none =>
    dsimp only
    cases hencode : ((Json.object body).write .compact).encode? with
    | error run =>
      simp only [reduceCtorEq, false_iff, not_and]
      intro _ hunicode
      cases hencode.symm.trans (Text.encode?_eq_ok_iff.2 ⟨hunicode, rfl⟩)
    | ok bytes =>
      have hunicode := (Text.encode?_eq_ok_iff.1 hencode).1
      simp only [Except.ok.injEq, hunicode, true_and]
      exact eq_comm

theorem wireText_eq_ok (hbody : (Json.object body).WellFormed 4300)
    (hdepth : (Json.object body).depth ≤ wireLimits.maxDepth)
    (htexts : ∀ s ∈ (Json.object body).texts, s.IsUnicode) :
    wireText body = .ok ((Json.object body).write .compact) :=
  wireText_eq_ok_iff.2 ⟨.of_wellFormed hbody hdepth,
    Json.isUnicode_write Json.Style.lawful_compact hbody fun _ => htexts, rfl⟩

end Request

namespace Response

theorem admit_rules {v : Json} (hv : v.WellFormed 4300) (hdepth : v.depth ≤ rules.maxDepth) :
    rules.Admit 4300 v :=
  ⟨rfl, rfl, by decide, hv, hdepth⟩

/-- Text of all ASCII that is written of a value, in whatever style and with blanks behind it, is
loaded as this value exactly if no text in it holds a surrogate pair. -/
theorem load_ascii_iff (backend : Backend) {v : Json} (hv : v.WellFormed 4300)
    (hdepth : v.depth ≤ rules.maxDepth) {style : Json.Style} (hstyle : style.Lawful)
    (hascii : style.asciiOnly = true) {b : Text} (hb : Json.Grammar.IsBlanks b) :
    (load backend (v.write style ++ b)).value = .ok v ↔ ∀ s ∈ v.texts, ¬s.HasSurrogatePair := by
  rw [load_eq_ok_iff, Json.document_write_eq_ok_iff (admit_rules hv hdepth) hstyle hb]
  exact ⟨fun h => h hascii, fun h _ => h⟩

/-- Values come back from one line of ASCII, from an indented document and from what the command
line prints of them, exactly if no text in them holds a surrogate pair. They come back in any case
from the compact text, which is what is sent of a body. -/
theorem load_written (backend : Backend) {v : Json} (hv : v.WellFormed 4300)
    (hdepth : v.depth ≤ rules.maxDepth) :
    ((load backend (v.write .spaced)).value = .ok v ↔ ∀ s ∈ v.texts, ¬s.HasSurrogatePair) ∧
    ((load backend (v.write .indented)).value = .ok v ↔ ∀ s ∈ v.texts, ¬s.HasSurrogatePair) ∧
    (∀ (verbose : Bool) (c : Cli.Conduct), c.result = .ok v →
      ((load backend (c.outcome verbose).output).value = .ok v ↔
        ∀ s ∈ v.texts, ¬s.HasSurrogatePair)) ∧
    (load backend (v.write .compact)).value = .ok v ∧
    ((∀ s ∈ v.texts, s.IsUnicode) →
      (v.write .compact).encode? = .ok (v.write .compact).utf8 ∧
      ∀ body, v = .object body → Request.wireText body = .ok (v.write .compact)) := by
  have hindented {b : Text} (hb : Json.Grammar.IsBlanks b) :=
    load_ascii_iff backend hv hdepth Json.Style.lawful_indented rfl hb
  refine ⟨?_, ?_, fun verbose c hc => ?_, ?_, fun htexts => ⟨?_, fun body hbody => ?_⟩⟩
  · have hspaced := load_ascii_iff backend hv hdepth Json.Style.lawful_spaced rfl
      Json.Grammar.isBlanks_nil
    rwa [List.append_nil] at hspaced
  · have hplain := hindented Json.Grammar.isBlanks_nil
    rwa [List.append_nil] at hplain
  · rw [Cli.Conduct.outcome, hc]
    exact hindented (b := text "\n") (by decide)
  · have hcompact := (Json.document_write_eq_ok_iff (admit_rules hv hdepth)
      Json.Style.lawful_compact Json.Grammar.isBlanks_nil).2 fun hascii => nomatch hascii
    rw [List.append_nil] at hcompact
    exact load_eq_ok_iff.2 hcompact
  · have hunicode := Json.isUnicode_write Json.Style.lawful_compact hv fun _ => htexts
    exact Text.encode?_eq_ok_iff.2 ⟨hunicode, rfl⟩
  · subst hbody
    exact Request.wireText_eq_ok hv hdepth htexts

/-- Two surrogates in the wrong order come back from ASCII, and in the right order they do not. -/
theorem load_written_surrogates :
    let high := CodePoint.ofNat 0xD83D
    let low := CodePoint.ofNat 0xDE00
    (load .tgi ((Json.array [.string [low, high]]).write .indented)).value =
      .ok (.array [.string [low, high]]) ∧
    (load .tgi ((Json.array [.string [high, low]]).write .indented)).value ≠
      .ok (.array [.string [high, low]]) ∧
    (load .tgi ((Json.array [.string [high, low]]).write .compact)).value =
      .ok (.array [.string [high, low]]) := by
  intro high low
  have hplain (s : Text) : (Json.array [.string s]).WellFormed 4300 := by
    intro p hp
    rcases List.mem_cons.1 hp with rfl | hp
    · trivial
    · rw [List.mem_singleton.1 hp]
      trivial
  have hwritten (s : Text) := load_written .tgi (hplain s) (show (1 : Nat) ≤ 990 by decide)
  refine ⟨(hwritten [low, high]).2.1.2 ?_, fun h => ?_, (hwritten [high, low]).2.2.2.1⟩
  · intro s hs
    rw [List.mem_singleton.1 hs]
    exact Text.joined_eq_self_iff.1 (by decide)
  · have hnone := (hwritten [high, low]).2.1.1 h [high, low] (List.mem_singleton_self _)
    exact hnone ⟨high, low, by decide, by decide, List.infix_rfl⟩

end Response

end CompletionWire
