import ApiMock.Text.Basic
import Mathlib.Data.List.Basic
import Mathlib.Data.List.DropRight
import Mathlib.Data.List.Induction
/-!
# Segments of paths

A path is cut at its slashes into segments. A rewriting that goes from slash to slash
(`Segmentwise`) can be carried out on the segments one by one, and it keeps the slashes at the end of
a path, so that it does not matter whether these are dropped before or after it.
-/
namespace ApiMock.Text

/-- The pieces of a text are those of the list of its characters. -/
theorem pieces_eq_splitOn (separator : Char) (text : List Char) :
    pieces (· == separator) text = text.splitOn separator := by
  induction text with
  | nil => rw [List.splitOn_nil, pieces]
  | cons c rest ih =>
    rw [List.splitOn_cons_eq_if_modifyHead, ← ih, pieces]
    split
    · rfl
    · cases cut : pieces (· == separator) rest with
      | nil => exact absurd cut (pieces_ne_nil _ rest)
      | cons first others => rfl

/-- Dropping characters at the end is dropping them at the start of the reverse. -/
theorem trimEndChars_eq_rdropWhile (test : Char → Bool) (text : List Char) :
    trimEndChars test text = text.rdropWhile test := rfl

/-- Without the slashes at its end, a path has no other segments. -/
theorem mem_pieces_of_trimEndChars {segment text : List Char}
    (listed : segment ∈ pieces (· == '/') (trimEndChars (· == '/') text)) :
    segment ∈ pieces (· == '/') text := by
  rw [pieces_eq_splitOn, trimEndChars_eq_rdropWhile] at listed
  rw [pieces_eq_splitOn]
  induction text using List.reverseRecOn with
  | nil => exact listed
  | append_singleton text last ih =>
    by_cases slash : last = '/'
    · subst slash
      rw [List.rdropWhile_concat_pos _ _ _ (by decide)] at listed
      rw [List.splitOn_append_cons_self]
      exact List.mem_append_left _ (ih listed)
    · rwa [List.rdropWhile_concat_neg _ _ _ (by simpa using slash)] at listed

/-- What holds of a segment alone, and of a segment and a slash before a path of which it holds, holds
of every path. -/
@[elab_as_elim]
theorem segment_induction {motive : List Char → Prop}
    (single : ∀ segment, '/' ∉ segment → motive segment)
    (cut : ∀ before rest, '/' ∉ before → motive rest → motive (before ++ '/' :: rest))
    (path : List Char) : motive path := by
  induction size : path.length using Nat.strongRecOn generalizing path with
  | _ size ih =>
    subst size
    by_cases slash : '/' ∈ path
    · obtain ⟨before, rest, rfl, first⟩ := List.eq_append_cons_of_mem slash
      have shorter : rest.length < (before ++ '/' :: rest).length := by
        simp only [List.length_append, List.length_cons]
        omega
      exact cut before rest first (ih _ shorter rest rfl)
    · exact single path slash

/-- A rewriting of paths that goes from slash to slash, and loses no segment. -/
structure Segmentwise (change : List Char → List Char) : Prop where
  /-- Nothing becomes of nothing. -/
  empty : change [] = []
  /-- Something becomes of something. -/
  filled : ∀ text, text ≠ [] → change text ≠ []
  /-- No slash comes in. -/
  apart : ∀ text, '/' ∉ text → '/' ∉ change text
  /-- What stands before a slash and what stands after it are rewritten alone. -/
  cut : ∀ before rest, change (before ++ '/' :: rest) = change before ++ '/' :: change rest

namespace Segmentwise

variable {change : List Char → List Char}

/-- The segments of a rewritten path are those of the path, each rewritten alone. -/
theorem pieces_eq (segmentwise : Segmentwise change) (path : List Char) :
    pieces (· == '/') (change path) = (pieces (· == '/') path).map change := by
  rw [pieces_eq_splitOn, pieces_eq_splitOn]
  induction path using segment_induction with
  | single segment whole =>
    have none := segmentwise.apart segment whole
    rw [List.splitOn_eq_singleton none, List.splitOn_eq_singleton whole, List.map_singleton]
  | cut before rest first ih =>
    have apart := segmentwise.apart before first
    rw [segmentwise.cut, List.splitOn_append_cons_self_of_not_mem apart,
      List.splitOn_append_cons_self_of_not_mem first, List.map_cons, ih]

/-- A rewritten path ends in a slash only if the path does. -/
theorem getLast?_of_change (segmentwise : Segmentwise change) {path : List Char}
    (found : (change path).getLast? = some '/') : path.getLast? = some '/' := by
  induction path using segment_induction with
  | single segment whole =>
    exact absurd (List.mem_of_getLast? found) (segmentwise.apart segment whole)
  | cut before rest first ih =>
    cases rest with
    | nil => simp
    | cons c rest =>
      obtain ⟨d, after, same⟩ :=
        List.exists_cons_of_ne_nil (segmentwise.filled (c :: rest) (List.cons_ne_nil c rest))
      rw [segmentwise.cut, same] at found
      have last : (change (c :: rest)).getLast? = some '/' := by
        rw [same]
        simpa using found
      have inner := ih last
      simpa using inner

/-- The slashes at the end may be dropped before or after a path is rewritten. -/
theorem trimEndChars_eq (segmentwise : Segmentwise change) (path : List Char) :
    trimEndChars (· == '/') (change path) = change (trimEndChars (· == '/') path) := by
  rw [trimEndChars_eq_rdropWhile, trimEndChars_eq_rdropWhile]
  induction path using List.reverseRecOn with
  | nil => rw [segmentwise.empty, List.rdropWhile_nil, segmentwise.empty]
  | append_singleton path last ih =>
    by_cases slash : last = '/'
    · subst slash
      rw [segmentwise.cut, segmentwise.empty, List.rdropWhile_concat_pos _ _ _ (by decide),
        List.rdropWhile_concat_pos _ _ _ (by decide), ih]
    · have kept : (change (path ++ [last])).getLast? ≠ some '/' := by
        intro found
        have ends := segmentwise.getLast?_of_change found
        rw [List.getLast?_concat] at ends
        exact slash (Option.some.inj ends)
      rw [List.rdropWhile_concat_neg _ _ _ (by simpa using slash), List.rdropWhile_eq_self_iff]
      intro filled
      rw [List.getLast?_eq_some_getLast filled] at kept
      simpa using kept

/-- The same for texts: the segments of a rewritten path are those of the path, each rewritten
alone. -/
theorem split_onChars (segmentwise : Segmentwise change) (path : String) :
    split '/' (onChars change path) = (split '/' path).map (onChars change) := by
  have each : ∀ segment : List Char,
      String.ofList (change segment) = onChars change (String.ofList segment) := by
    intro segment
    rw [onChars, String.toList_ofList]
  rw [split, onChars, String.toList_ofList, segmentwise.pieces_eq, split, List.map_map,
    List.map_map]
  exact List.map_congr_left fun segment _ => each segment

/-- The same for texts: the slashes at the end may be dropped before or after a path is
rewritten. -/
theorem trimSlashes_onChars (segmentwise : Segmentwise change) (path : String) :
    trimSlashes (onChars change path) = onChars change (trimSlashes path) := by
  rw [trimSlashes, onChars, onChars, onChars, trimSlashes, onChars, String.toList_ofList,
    String.toList_ofList, segmentwise.trimEndChars_eq]

end Segmentwise

end ApiMock.Text
