/-
# ControlLink.Proofs.Config.File — a saved configuration is loaded again

What was written to a file is read from it (`read_of_write`), since where a path leads does not
depend on what the files hold (`place_eq_ok`). In a file that is not in YAML the text is the pretty
text of the document, so loading it yields the document up to the nesting limit
(`loadFile_renderFile`, `saved_loaded`).
-/
import ControlLink.Config.File
import ControlLink.Proofs.Json.RoundTrip
import Mathlib.Tactic.SplitIfs

namespace ControlLink

set_option autoImplicit false

/-! ## Files -/

namespace Files

variable {files others : Files} {path : String} {place : Place}

/-- The files matter only to why a path leads nowhere. -/
theorem follow_eq_ok {slash : Bool} {parts : List String}
    (led : files.follow slash parts = .ok place) : others.follow slash parts = .ok place := by
  unfold follow at led ⊢
  split at led
  · exact led
  · exact led
  · split at led
    next => cases led
    next short =>
      rw [if_neg short]
      split at led
      next last => rwa [if_pos last]
      next => split at led <;> cases led

theorem place_eq_ok (led : files.place path = .ok place) : others.place path = .ok place := by
  -- Only the last branch looks at the files.
  simp only [Files.place] at led ⊢
  split_ifs at led ⊢
  · exact led
  · exact follow_eq_ok led

/-- **What was written is read.** -/
theorem read_of_write {content : Bytes} {saved : Files}
    (written : files.write path content = .ok saved) : saved.read path = .ok content := by
  unfold write at written
  split at written
  · cases written
  · cases written
  · rename_i name slash led
    split at written
    · cases written
    next file =>
      cases written
      rw [read, place_eq_ok led]
      simp [find?, file]

end Files

namespace Config

open Text.Utf8

theorem parseFile_encode {path : String} (json : isYaml path = false) (text : List Char) :
    parseFile path (encode text) = (Json.parse (encode text)).mapError .json := by
  rw [parseFile, decode?_encode]
  simp only [json, Bool.false_eq_true, if_false]

theorem renderFile_of_json {target : Option String} (json : target.any isYaml = false)
    (document : Json) : renderFile target document = document.pretty ++ ['\n'] := by
  rw [renderFile, if_neg (by simp [json])]

section Saved

variable {path : String} {target : Option String} {members : List (String × Json)}

/-- What is in a file with the text of a document. -/
theorem loadFile_renderFile (json : isYaml path = false) (printed : target.any isYaml = false)
    (ordered : (Json.object members).Ordered) (exact : (Json.object members).Exact) :
    loadFile path (encode (renderFile target (.object members))) =
      if (Json.object members).depth ≤ Json.depthLimit then .ok (.object members)
      else .error (.json .tooDeep) := by
  rw [renderFile_of_json printed, loadFile, parseFile_encode json,
    Json.parse_pretty ordered exact]
  by_cases shallow : (Json.object members).depth ≤ Json.depthLimit
  · simp only [if_pos shallow]
    rfl
  · simp only [if_neg shallow]
    rfl

/-- **A configuration saved in JSON is loaded again**, from wherever its text is held, if it nests at
most 127 arrays and objects in each other; one that nests deeper is saved and refused as too deep. It
has no binary64 numbers, and neither the file nor what it was printed for has a name that asks for
YAML. -/
theorem saved_loaded (json : isYaml path = false) (printed : target.any isYaml = false)
    (ordered : (Json.object members).Ordered) (exact : (Json.object members).Exact) :
    loadFile path (encode (renderFile target (.object members))) =
      (if (Json.object members).depth ≤ 127 then .ok (.object members)
        else .error (.json .tooDeep)) ∧
    ∀ files : Files, files.read path = .ok (encode (renderFile target (.object members))) →
      load files path =
        if (Json.object members).depth ≤ 127 then .ok (.object members)
        else .error (.file path (.json .tooDeep)) := by
  have loaded := loadFile_renderFile json printed ordered exact
  refine ⟨loaded, fun files held => ?_⟩
  have steps : load files path = (loadFile path
      (encode (renderFile target (.object members)))).mapError (.file path) := by
    rw [load, held]
    rfl
  rw [steps, loaded]
  by_cases shallow : (Json.object members).depth ≤ Json.depthLimit
  · rw [if_pos shallow, if_pos (show _ ≤ 127 from shallow)]
    rfl
  · rw [if_neg shallow, if_neg (show ¬ _ ≤ 127 from shallow)]
    rfl

end Saved

/-- Escapes in keys and values, both ends of the integers and empty values inside each other come
back from a new file. -/
theorem saved_loaded_nested :
    let document : Json := .object [
      ("", .string "\"\\/\n\u0001\u007fé€😀"),
      ("a\tb", .array [.number (.integer (-0x8000000000000000) (by decide)),
        .number (.integer 0xFFFFFFFFFFFFFFFF (by decide))]),
      ("z", .array [.array [], .object [("\u0000", .null), ("é", .array [.bool true])]])]
    ∃ saved, ({} : Files).write "config.json"
        (encode (renderFile (some "config.json") document)) = .ok saved ∧
      load saved "config.json" = .ok document := by
  intro document
  have ordered : document.Ordered :=
    ⟨by decide, trivial, ⟨trivial, trivial, trivial⟩,
      ⟨trivial, ⟨by decide, trivial, ⟨trivial, trivial⟩, trivial⟩, trivial⟩, trivial⟩
  have exact : document.Exact :=
    ⟨trivial, ⟨trivial, trivial, trivial⟩,
      ⟨trivial, ⟨trivial, ⟨trivial, trivial⟩, trivial⟩, trivial⟩, trivial⟩
  have json : isYaml "config.json" = false := by decide +kernel
  have written : ({} : Files).write "config.json"
      (encode (renderFile (some "config.json") document)) =
        .ok ⟨[("config.json", encode (renderFile (some "config.json") document))]⟩ := by
    rfl
  have printed : (some "config.json").any isYaml = false := json
  have loaded := (saved_loaded json printed ordered exact).2 _ (Files.read_of_write written)
  exact ⟨_, written, loaded.trans (if_pos (by decide))⟩

end Config

end ControlLink
