import CompletionWire.Proofs.Cli.Printing
import CompletionWire.Proofs.Delivery.EndToEnd
import CompletionWire.Proofs.Json.Rewriting

/-!
# Parsing what was parsed

The generations that are parsed from a response are printed as a response of the standard backend.
Parsing this prints it once more, without any change, whatever the generations hold: surrogates that
are joined on the way are written as they were when they stood apart.
-/

namespace CompletionWire

/-! ### Line ends -/

namespace Text

theorem flatMap_lineEnd {previous : CodePoint} {t : Text} (hprevious : previous ≠ .carriageReturn)
    (ht : CodePoint.carriageReturn ∉ t) :
    ((List.zip (previous :: t) t).flatMap fun (previous, c) => lineEnd previous c) = t := by
  induction t generalizing previous with
  | nil => rfl
  | cons c t ih =>
    rw [List.mem_cons, not_or] at ht
    have hc : lineEnd previous c = [c] := by
      rw [lineEnd, if_neg fun h => hprevious h.2, if_neg (Ne.symm ht.1)]
    rw [List.zip_cons_cons, List.flatMap_cons, ih (Ne.symm ht.1) ht.2]
    exact congrArg (· ++ t) hc

theorem unifyLineEnds_of_not_mem {t : Text} (ht : CodePoint.carriageReturn ∉ t) :
    t.unifyLineEnds = t :=
  flatMap_lineEnd (by decide) ht

end Text

/-! ### Generations as a response -/

/-- The generation with the surrogate pairs of its text joined. -/
def Generation.joined (g : Generation) : Generation := ⟨g.generatedText.joined⟩

theorem Generation.joined_eq_self_iff {g : Generation} :
    g.joined = g ↔ ¬g.generatedText.HasSurrogatePair := by
  rw [← Text.joined_eq_self_iff, joined]
  exact ⟨fun h => congrArg generatedText h, fun h => by rw [h]⟩

namespace Cli

theorem keysStayApart_generationsJson (gs : List Generation) : (generationsJson gs).KeysStayApart :=
  .of_items (List.forall_mem_map.2 fun _ _ =>
    .of_members (List.pairwise_singleton _ _) (List.forall_mem_singleton.2 (.of_string _)))

theorem mapTexts_generationsJson (gs : List Generation) :
    (generationsJson gs).mapTexts Text.joined = generationsJson (gs.map Generation.joined) := by
  have hkey : Generation.textField.wire.joined = Generation.textField.wire := by decide
  have hone (g : Generation) : g.toJson.mapTexts Text.joined = g.joined.toJson := by
    rw [Generation.toJson, Json.mapTexts, Json.mapMembers, Json.mapMembers, Json.mapTexts, hkey]
    rfl
  rw [generationsJson, Json.mapTexts, Json.mapItems_eq, List.map_map, generationsJson, List.map_map]
  exact congrArg _ (List.map_congr_left fun g _ => hone g)

theorem printed_joined (gs : List Generation) :
    printed (generationsJson (gs.map Generation.joined)) = printed (generationsJson gs) := by
  have hascii : Json.Style.indented.asciiOnly = true := rfl
  have hwritten := Json.writeAt_mapTexts_joined hascii (keysStayApart_generationsJson gs) 0
  rw [mapTexts_generationsJson] at hwritten
  exact congrArg (· ++ text "\n") hwritten

theorem classify_generationsJson (size : Nat) (gs : List Generation) :
    (Response.classify .huggingFace size (generationsJson gs)).value = .ok gs := by
  have hrenders := Response.Renders.huggingFace (gs.map (·.generatedText))
  rw [List.map_map] at hrenders
  have hclassify := Response.classify_of_renders hrenders size
  rw [List.map_map] at hclassify
  exact hclassify.trans (congrArg _ (List.map_id gs))

/-- Generations that were printed are read as they are, with surrogate pairs joined. -/
theorem read_printed (gs : List Generation) :
    (Response.read (some .huggingFace) (printed (generationsJson gs))).value =
      .ok (gs.map Generation.joined) := by
  have hload : (Response.load (Backend.resolve (some .huggingFace))
      (printed (generationsJson gs))).value = .ok (generationsJson (gs.map Generation.joined)) := by
    rw [← mapTexts_generationsJson]
    exact Response.load_printed _ ((fits_generationsJson gs).mono (by decide))
      (isFinite_generationsJson gs)
  rw [Response.read_value_of_load hload]
  exact congrArg _ (classify_generationsJson _ _)

theorem isDocumentCodePoint_of_mem_printed (doc : Json) :
    ∀ c ∈ printed doc, Json.IsDocumentCodePoint c :=
  List.forall_mem_append.2 ⟨Json.uses_indented.writeAt rfl doc 0,
    List.forall_mem_singleton.2 (.inl rfl)⟩

theorem isUnicode_printed (doc : Json) : (printed doc).IsUnicode := by
  intro c hc
  rcases isDocumentCodePoint_of_mem_printed doc c hc with rfl | ⟨-, hhigh⟩
  · decide
  · exact Json.isSurrogate_of_lt hhigh

theorem not_mem_printed (doc : Json) : CodePoint.carriageReturn ∉ printed doc := by
  intro hc
  rcases isDocumentCodePoint_of_mem_printed doc _ hc with h | ⟨hlow, -⟩
  · exact absurd h (by decide)
  · exact absurd hlow (by decide)

/-! ### Input -/

/-- These bytes stand under a name: the input under a hyphen, or the contents of a file. -/
inductive Supplies (w : Surroundings) (bytes : Bytes) : Text → Prop
  | input (h : w.input = bytes) : Supplies w bytes (text "-")
  | file {name : Text} (hname : IsFileName name) (h : w.file name = .contents bytes) :
      Supplies w bytes name

theorem readsInput_printed {w : Surroundings} {name : Text} {doc : Json}
    (h : Supplies w (printed doc).utf8 name) : ReadsInput w name (.ok (printed doc)) := by
  have hunicode := isUnicode_printed doc
  have hline := Text.unifyLineEnds_of_not_mem (not_mem_printed doc)
  cases h with
  | input h =>
    have hread := ReadsInput.input (w := w)
    rwa [h, Utf8.decodeEscaping_utf8 hunicode, hline] at hread
  | file hname h =>
    have hread := ReadsInput.file hname h (Utf8.decode?_utf8 hunicode)
    rwa [hline] at hread

/-! ### Parsing twice -/

def Parses (w : Surroundings) (s : Settings) (a : ParseArgs) (gs : List Generation) : Prop :=
  ∃ t b?, ReadsInput w a.input (.ok t) ∧ NamesBackend (a.adaptor?.or s.adaptorTag?) (.ok b?) ∧
    (Response.read b? t).value = .ok gs

theorem Parses.unique {w : Surroundings} {s : Settings} {a : ParseArgs}
    {gs gs' : List Generation} (h : Parses w s a gs) (h' : Parses w s a gs') : gs = gs' := by
  obtain ⟨t, b?, ht, hb, hread⟩ := h
  obtain ⟨t', b?', ht', hb', hread'⟩ := h'
  obtain rfl := Except.ok.inj ((readsInput_iff.1 ht).symm.trans (readsInput_iff.1 ht'))
  obtain rfl := Except.ok.inj ((namesBackend_iff.1 hb).symm.trans (namesBackend_iff.1 hb'))
  exact Except.ok.inj (hread.symm.trans hread')

theorem exists_parses_of_exit {w : Surroundings} {args : List Text} {invocation : Invocation}
    {a : ParseArgs} (hargs : Invocation.ofArgs args = .ok invocation)
    (hc : invocation.command? = some (.parse a)) (hexit : (run w args).exit = .ok 0) :
    ∃ gs, Parses w (.ofEnvironment w.environment) a gs ∧
      (run w args).output = printed (generationsJson gs) := by
  have hyields : Yields w (.ofEnvironment w.environment) (.parse a)
      ((Command.parse a).run w).result := yields_iff.2 rfl
  have hshows := shows_of_yields hargs hc hyields
  obtain ⟨doc, hdoc⟩ := (exit_of_shows hshows).1.1 hexit
  rw [hdoc] at hyields hshows
  generalize hr : Except.ok doc = r at hyields
  cases hyields with
  | parseInput | parseBackend => cases hr
  | parse ht hb h =>
    obtain ⟨gs, rfl, rfl⟩ := exists_of_map_eq_ok hr.symm
    exact ⟨gs, ⟨_, _, ht, hb, h⟩, hshows.2⟩

/-- The output of a parse that succeeds, parsed again as what the standard backend sends, is printed
once more as it is. The generations are the same ones with surrogate pairs joined, and so they are
the same exactly if no high surrogate stands directly in front of a low one in any of them. -/
theorem parse_of_parsed {w w' : Surroundings} {args args' : List Text}
    {invocation invocation' : Invocation} {a a' : ParseArgs}
    (hargs : Invocation.ofArgs args = .ok invocation)
    (hc : invocation.command? = some (.parse a)) (hexit : (run w args).exit = .ok 0)
    (hargs' : Invocation.ofArgs args' = .ok invocation')
    (hc' : invocation'.command? = some (.parse a'))
    (hadaptor : a'.adaptor? = some Backend.huggingFace.tag)
    (hinput : Supplies w' (run w args).output.utf8 a'.input) :
    (run w' args').exit = .ok 0 ∧ (run w' args').output = (run w args).output ∧
    ∃ gs gs', Parses w (.ofEnvironment w.environment) a gs ∧
      Parses w' (.ofEnvironment w'.environment) a' gs' ∧
      gs' = gs.map Generation.joined ∧
      (gs' = gs ↔ ∀ g ∈ gs, ¬g.generatedText.HasSurrogatePair) := by
  obtain ⟨gs, hparses, houtput⟩ := exists_parses_of_exit hargs hc hexit
  rw [houtput] at hinput
  have hread := readsInput_printed hinput
  have hbackend : NamesBackend (a'.adaptor?.or (Settings.ofEnvironment w'.environment).adaptorTag?)
      (.ok (some .huggingFace)) := by
    rw [hadaptor]
    exact .known (by decide)
  have hparses' : Parses w' (.ofEnvironment w'.environment) a' (gs.map Generation.joined) :=
    ⟨_, _, hread, hbackend, read_printed gs⟩
  have hshows := shows_of_yields hargs' hc' (.parse hread hbackend (read_printed gs))
  refine ⟨hshows.1, ?_, gs, _, hparses, hparses', rfl, ?_⟩
  · rw [houtput, ← printed_joined]
    exact hshows.2
  · rw [Json.map_eq_self_iff]
    exact forall₂_congr fun g _ => Generation.joined_eq_self_iff

/-- An escaped high surrogate in front of a stray byte, which stands for a low one, is parsed as two
code points and printed as two escapes. These are then parsed as one, and printed as two again. -/
theorem parse_of_parsed_stray_byte :
    let bytes := (text "\x7b\"generated_text\":\"\\ud83d").utf8 ++ 0x80 :: (text "\"\x7d").utf8
    let around (input : Bytes) : Surroundings := ⟨[], [], input, fun _ => .missing, []⟩
    let o := run (around bytes) (["parse"].map text)
    let o' := run (around o.output.utf8) (["parse", "--adaptor", "huggingface"].map text)
    o'.exit = .ok 0 ∧ o'.output = o.output ∧
      Parses (around bytes) (.ofEnvironment []) {}
        [⟨[CodePoint.ofNat 0xD83D, CodePoint.ofNat 0xDC80]⟩] ∧
      Parses (around o.output.utf8) (.ofEnvironment []) { adaptor? := some (text "huggingface") }
        [⟨[CodePoint.ofNat 0x1F480]⟩] := by
  intro bytes around o o'
  have hargs : Invocation.ofArgs (["parse"].map text) = .ok { command? := some (.parse {}) } := by
    rfl
  have hargs' : Invocation.ofArgs (["parse", "--adaptor", "huggingface"].map text) =
      .ok { command? := some (.parse { adaptor? := some (text "huggingface") }) } := by rfl
  have hexit : o.exit = .ok 0 := eq_ok_of_toOption (by decide +kernel)
  have hread : (Response.read none (Utf8.decodeEscaping bytes).unifyLineEnds).value =
      .ok [⟨[CodePoint.ofNat 0xD83D, CodePoint.ofNat 0xDC80]⟩] :=
    eq_ok_of_toOption (by decide +kernel)
  have hsupplies (input : Bytes) : Supplies (around input) input (text "-") := .input rfl
  obtain ⟨hexit', houtput, gs, gs', hgs, hgs', hjoined, -⟩ :=
    parse_of_parsed hargs rfl hexit hargs' rfl rfl (hsupplies _)
  have hfirst : Parses (around bytes) (.ofEnvironment []) {}
      [⟨[CodePoint.ofNat 0xD83D, CodePoint.ofNat 0xDC80]⟩] := ⟨_, _, .input, .none, hread⟩
  obtain rfl := hgs.unique hfirst
  refine ⟨hexit', houtput, hfirst, ?_⟩
  rw [hjoined] at hgs'
  exact hgs'

end Cli

end CompletionWire
