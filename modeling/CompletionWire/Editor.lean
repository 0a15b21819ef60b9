import CompletionWire.Text.CodePoint

/-!
# Editors

The editors that a client may report in its User-Agent, each with its tag.
-/

namespace CompletionWire

inductive Editor
  | neovim
  | vscode
  | jetbrains
  | emacs
  | jupyter
  | sublime
  | visualStudio
  | unknown
deriving DecidableEq

namespace Editor

def all : List Editor := [neovim, vscode, jetbrains, emacs, jupyter, sublime, visualStudio, unknown]

def tag : Editor → Text
  | neovim => text "neovim"
  | vscode => text "vscode"
  | jetbrains => text "jetbrains"
  | emacs => text "emacs"
  | jupyter => text "jupyter"
  | sublime => text "sublime"
  | visualStudio => text "visualstudio"
  | unknown => text "unknown"

/-- The editor of an exact tag. -/
def ofTag? (t : Text) : Option Editor := all.find? (·.tag = t)

theorem ofTag?_tag (e : Editor) : ofTag? e.tag = some e := by
  cases e <;> decide

theorem ofTag?_eq_some_iff {t : Text} {e : Editor} : ofTag? t = some e ↔ e.tag = t := by
  constructor
  · intro h
    simpa [ofTag?] using List.find?_some h
  · rintro rfl
    exact ofTag?_tag e

end Editor

end CompletionWire
