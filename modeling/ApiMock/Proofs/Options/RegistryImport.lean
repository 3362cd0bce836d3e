import ApiMock.Options.RegistryImport
import ApiMock.Proofs.Text.Place
import ApiMock.Proofs.Text.Segments
/-!
# Where the import of the schema registry leads

The import path goes up once for every segment of the output directory that leads somewhere, and then
down to the registry module. From the output directory this leads to the module as long as no segment
leads up itself: a segment `..` counts as one more directory on the way down, although it is one less, so
each of them makes the path lead up twice too often (`registryImport_resolves`).

Both paths are relative and start at one directory. A slash in front of a path is not told apart: the
empty segment before it leads nowhere, so that the path is read as if the slash were not there.
-/
namespace ApiMock.Options

open Text

/-- The segments of the directory that a file is in. -/
def directory (path : String) : List String := (split '/' (withSlashes path)).dropLast

/-- A module path without one extension at its end. -/
def withoutExtension (path : String) : String := (before? ".ts" path).getD path

/-- Up to its first slash a path is one segment. -/
theorem split_slash {lead : String} (whole : '/' ∉ lead.toList) (rest : String) :
    split '/' (lead ++ "/" ++ rest) = lead :: split '/' rest := by
  have chars : (lead ++ "/" ++ rest).toList = lead.toList ++ '/' :: rest.toList := by
    simp [String.toList_append]
  rw [split, chars, pieces_eq_splitOn, List.splitOn_append_cons_self_of_not_mem whole, List.map_cons,
    String.ofList_toList, split, pieces_eq_splitOn]

/-- The way up from a directory leads up as often as the directory is deep, and nowhere else. -/
theorem exists_split_wayUp (depth : Nat) (path : String) :
    ∃ lead, split '/' (wayUp depth ++ path) = lead ++ split '/' path ∧
      ∀ place : Place, place.walk lead = place.walk (List.replicate depth "..") := by
  cases depth with
  | zero =>
    have whole : '/' ∉ ".".toList := by decide
    have cut : split '/' (wayUp 0 ++ path) = "." :: split '/' path := split_slash whole path
    exact ⟨["."], cut, fun place => Place.step_of_still (.inr rfl) place⟩
  | succ depth =>
    refine ⟨List.replicate (depth + 1) "..", ?_, fun place => rfl⟩
    rw [wayUp, if_neg (Nat.succ_ne_zero depth)]
    induction depth + 1 with
    | zero => simp [String.join]
    | succ count ih =>
      have first : String.join (List.replicate (count + 1) "../") ++ path =
          ".." ++ "/" ++ (String.join (List.replicate count "../") ++ path) := by
        rw [List.replicate_succ, String.join_cons, String.append_assoc]
        rfl
      rw [first, split_slash (by decide), ih, List.replicate_succ, List.cons_append]

/-- From the directory of a file, the way up from its depth and a path after it lead to where the path
leads, but for two steps up for every segment of the directory that leads up. -/
theorem normalForm_wayUp {output : String} (inside : ".." ∉ normalForm (directory output))
    (path : String) :
    normalForm (directory output ++ split '/' (wayUp (directoryDepth output) ++ path)) =
      List.replicate (2 * (directory output).count "..") ".." ++ normalForm (split '/' path) := by
  obtain ⟨lead, cut, same⟩ := exists_split_wayUp (directoryDepth output) path
  have depth : directoryDepth output = ((directory output).filter moves).length := rfl
  rw [← normalForm_undone inside, cut, ← depth, normalForm, normalForm]
  simp only [Place.walk_append, same]

/-- A dot in front does not count for the extension. -/
theorem withoutExtension_dot (path : String) :
    withoutExtension ("./" ++ path) = "./" ++ withoutExtension path := by
  cases found : before? ".ts" path with
  | some stem =>
    obtain rfl := before?_eq_some_iff.mp found
    have outer : before? ".ts" ("./" ++ (stem ++ ".ts")) = some ("./" ++ stem) :=
      before?_eq_some_iff.mpr String.append_assoc.symm
    rw [withoutExtension, withoutExtension, found, outer, Option.getD_some, Option.getD_some]
  | none =>
    have outer : before? ".ts" ("./" ++ path) = none := by
      refine Option.eq_none_iff_forall_ne_some.mpr fun stem ends => ?_
      have chars : ['.', '/'] ++ path.toList = stem.toList ++ ['.', 't', 's'] := by
        have whole := congrArg String.toList (before?_eq_some_iff.mp ends)
        rwa [String.toList_append, String.toList_append] at whole
      -- The extension does not reach into the dot and the slash.
      rcases beginning : stem.toList with _ | ⟨dot, _ | ⟨slash, rest⟩⟩
      · rw [beginning] at chars
        exact absurd (List.cons.inj (List.cons.inj chars).2).1 (by decide)
      · rw [beginning] at chars
        exact absurd (List.cons.inj (List.cons.inj chars).2).1 (by decide)
      · rw [beginning] at chars
        have inner : path = String.ofList rest ++ ".ts" := by
          rw [← String.toList_inj, String.toList_append, String.toList_ofList]
          exact (List.cons.inj (List.cons.inj chars).2).2
        rw [before?_eq_some_iff.mpr inner] at found
        cases found
    rw [withoutExtension, withoutExtension, found, outer, Option.getD_none, Option.getD_none]

/-- An import names the module without its extension. -/
theorem normalForm_importName (path : String) :
    normalForm (split '/' (importName path)) =
      normalForm (split '/' (withoutExtension (withSlashes path))) := by
  cases dotted : after? "./" (withSlashes path) with
  | none => rw [importName, dotted, Option.getD_none, withoutExtension]
  | some rest =>
    have whole : withSlashes path = "./" ++ rest := after?_eq_some_iff.mp dotted
    have named : importName path = withoutExtension rest := by
      rw [importName, dotted, Option.getD_some, withoutExtension]
    have noSlash : '/' ∉ ".".toList := by decide
    have cut : split '/' ("./" ++ withoutExtension rest) = "." :: split '/' (withoutExtension rest) :=
      split_slash noSlash _
    rw [whole, withoutExtension_dot, cut, normalForm_dot, named]

/-- From the directory of the output file, which may not be above the start of its path, the import path
leads to the registry module without its extension, but for two steps up for every segment `..` of that
directory. So it leads to the module exactly when the directory has no such segment. -/
theorem registryImport_resolves {options : Options} {path : String}
    (chosen : options.registryModule = some path) (filled : isBlank path = false)
    (inside : ".." ∉ normalForm (directory options.output)) :
    ∃ name, options.registryImport? = some name ∧
      normalForm (directory options.output ++ split '/' name) =
        List.replicate (2 * (directory options.output).count "..") ".." ++
          normalForm (split '/' (withoutExtension (withSlashes path))) ∧
      (normalForm (directory options.output ++ split '/' name) =
          normalForm (split '/' (withoutExtension (withSlashes path))) ↔
        ".." ∉ directory options.output) := by
  have enabled : options.registryEnabled = true := by
    rw [registryEnabled, chosen]
    simp [filled]
  have imported : options.registryImport? =
      some (wayUp (directoryDepth options.output) ++ importName path) := by
    rw [registryImport?, if_pos enabled, chosen, Option.map_some]
  have leads := normalForm_wayUp inside (importName path)
  rw [normalForm_importName] at leads
  refine ⟨_, imported, leads, ?_⟩
  rw [leads, List.append_left_eq_self, List.replicate_eq_nil_iff, ← List.count_eq_zero]
  omega

/-- With backslashes and a doubled slash, the import leads from the directory of the output to the
module. -/
theorem registryImport_resolves_nested :
    let options : Options :=
      { output := ".\\src//mocks/handlers.ts", registryModule := some ".\\src\\api.ts" }
    isBlank ".\\src\\api.ts" = false ∧ ".." ∉ normalForm (directory options.output) ∧
      options.registryImport? = some "../../src/api" ∧
      normalForm (directory options.output ++ split '/' "../../src/api") = ["src", "api"] := by
  intro options
  have filled : isBlank ".\\src\\api.ts" = false := by decide
  have place : normalForm (directory options.output) = ["src", "mocks"] := by decide
  have inside : ".." ∉ normalForm (directory options.output) := by
    rw [place]
    decide
  have named : options.registryImport? = some "../../src/api" := by decide
  have module : normalForm (split '/' (withoutExtension (withSlashes ".\\src\\api.ts"))) =
      ["src", "api"] := by decide
  obtain ⟨name, imported, -, same⟩ := registryImport_resolves rfl filled inside
  obtain rfl : "../../src/api" = name := Option.some.inj (named.symm.trans imported)
  refine ⟨filled, inside, named, ?_⟩
  rw [same.mpr (by decide), module]

/-- The output goes into `src` and out of it again, and the import leads up two directories from the
place where the path starts instead of to the module. -/
theorem misses_registry :
    let options : Options := { output := "src/../mocks.ts", registryModule := some "api.ts" }
    isBlank "api.ts" = false ∧ ".." ∉ normalForm (directory options.output) ∧
      options.registryImport? = some "../../api" ∧
      normalForm (directory options.output ++ split '/' "../../api") = ["..", "..", "api"] ∧
      normalForm (directory options.output ++ split '/' "../../api") ≠
        normalForm (split '/' (withoutExtension (withSlashes "api.ts"))) := by
  decide

end ApiMock.Options
