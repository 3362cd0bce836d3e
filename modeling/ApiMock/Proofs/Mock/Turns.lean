import ApiMock.Mock.Handler
import ApiMock.Number.Power
import Mathlib.Data.List.Induction
/-!
# Turns over whole runs

A run is a sequence of requests, each to a handler and for a path, and of resets. `peek_happen` says
what one event does to the counter of a path, and `toNat_peek_after` what a whole run makes of it:
the number of requests for the path since the last reset that could be answered, as a 64-bit word.
Outcomes depend on the counters alone, so from it follow the response whose turn it is at any point
of a run, and that requests for different paths have nothing to do with each other.
-/
namespace ApiMock

/-- What happens to the handlers of a mock and their counters. -/
inductive Event where
  /-- A request for a path reaches a handler. -/
  | request (handler : Handler) (path : String)
  /-- All requests are forgotten. -/
  | reset

namespace Event

/-- The outcome of an event, and the counters after it. A reset has no response. -/
def happen : Event → Rotation → Option MockResponse × Rotation
  | request handler path, rotation => handler.respond path rotation
  | reset, rotation => (none, rotation.reset)

/-- Whether all requests are forgotten. -/
def isReset : Event → Bool
  | request _ _ => false
  | reset => true

/-- Whether an event is a request for a path to a handler that has a response. -/
def counts (path : String) : Event → Bool
  | request handler asked => asked == path && !handler.responses.isEmpty
  | reset => false

/-- Whether an event has to do with a path: requests for it and resets do. -/
def concerns (path : String) : Event → Bool
  | request _ asked => asked == path
  | reset => true

end Event

/-- The counters after a run of events. -/
def Rotation.after (rotation : Rotation) (events : List Event) : Rotation :=
  events.foldl (fun rotation event => (event.happen rotation).2) rotation

/-- The outcomes of a run of events, in order. -/
def outcomes (rotation : Rotation) : List Event → List (Option MockResponse)
  | [] => []
  | event :: later => (event.happen rotation).1 :: outcomes (event.happen rotation).2 later

/-- The number of requests for a path since the last reset whose handler has a response. -/
def turns (path : String) (events : List Event) : Nat :=
  (events.reverse.takeWhile fun event => !event.isReset).countP (Event.counts path)

/-! ### One event -/

/-- A request moves the counter of its path by one if the handler has a response, and no other
counter. A reset puts all counters to zero. -/
theorem Event.peek_happen (event : Event) (rotation : Rotation) (path : String) :
    (event.happen rotation).2.peek path =
      if event.isReset then 0
      else if event.counts path then rotation.peek path + 1 else rotation.peek path := by
  cases event with
  | reset => rfl
  | request handler asked =>
    rw [Event.happen, Event.isReset, Event.counts]
    by_cases silent : handler.responses = []
    · rw [Handler.respond_of_nil silent, silent]
      simp
    · have answering : 0 < handler.responses.length := List.length_pos_iff.mpr silent
      rw [Handler.respond_of_pos answering, List.isEmpty_eq_false_iff.mpr silent]
      by_cases same : asked = path
      · subst same
        simp
      · simp [Rotation.peek_advance_of_ne rotation same, same]

/-- The outcome of a request depends on the counter of its path alone. -/
theorem Handler.respond_congr (handler : Handler) {path : String} {left right : Rotation}
    (same : left.peek path = right.peek path) :
    (handler.respond path left).1 = (handler.respond path right).1 := by
  by_cases silent : handler.responses = []
  · rw [Handler.respond_of_nil silent, Handler.respond_of_nil silent]
  · have answering : 0 < handler.responses.length := List.length_pos_iff.mpr silent
    rw [Handler.respond_of_pos answering, Handler.respond_of_pos answering]
    simp only [same]

/-- Counters that read alike give the same outcome. -/
theorem Event.happen_congr (event : Event) {left right : Rotation}
    (same : ∀ path, left.peek path = right.peek path) :
    (event.happen left).1 = (event.happen right).1 := by
  cases event with
  | reset => rfl
  | request handler path => exact Handler.respond_congr handler (same path)

/-! ### Whole runs -/

/-- The counters after one more event are those that the event leaves. -/
theorem Rotation.after_append_singleton (rotation : Rotation) (events : List Event)
    (event : Event) :
    rotation.after (events ++ [event]) = (event.happen (rotation.after events)).2 := by
  rw [Rotation.after, List.foldl_append]
  rfl

/-- There is one outcome for each event. -/
theorem length_outcomes (rotation : Rotation) (events : List Event) :
    (outcomes rotation events).length = events.length := by
  induction events generalizing rotation with
  | nil => rfl
  | cons event later ih => rw [outcomes, List.length_cons, List.length_cons, ih]

/-- The outcomes of a run in two parts are those of the parts, the second with the counters that the
first leaves. -/
theorem outcomes_append (rotation : Rotation) (events later : List Event) :
    outcomes rotation (events ++ later) =
      outcomes rotation events ++ outcomes (rotation.after events) later := by
  induction events generalizing rotation with
  | nil => rfl
  | cons event rest ih => rw [List.cons_append, outcomes, outcomes, ih]; rfl

/-- The outcome of an event within a run is its outcome with the counters before it. -/
theorem getElem?_outcomes (rotation : Rotation) (events later : List Event) (event : Event) :
    (outcomes rotation (events ++ event :: later))[events.length]? =
      some (event.happen (rotation.after events)).1 := by
  have position : (outcomes rotation events).length ≤ events.length :=
    Nat.le_of_eq (length_outcomes rotation events)
  rw [outcomes_append, List.getElem?_append_right position, length_outcomes, Nat.sub_self]
  rfl

/-- Counters that read alike give the same outcomes in every run. -/
theorem outcomes_congr {left right : Rotation}
    (same : ∀ path, left.peek path = right.peek path) (events : List Event) :
    outcomes left events = outcomes right events := by
  induction events generalizing left right with
  | nil => rfl
  | cons event later ih =>
    have still : ∀ path, (event.happen left).2.peek path = (event.happen right).2.peek path := by
      intro path
      rw [Event.peek_happen, Event.peek_happen, same path]
    rw [outcomes, outcomes, Event.happen_congr event same, ih still]

/-- One more event ends the count, adds one to it or leaves it. -/
theorem turns_append_singleton (path : String) (events : List Event) (event : Event) :
    turns path (events ++ [event]) =
      if event.isReset then 0
      else if event.counts path then turns path events + 1 else turns path events := by
  rw [turns, List.reverse_append, List.reverse_singleton, List.singleton_append,
    List.takeWhile_cons]
  by_cases reset : event.isReset
  · simp [reset]
  · by_cases counted : event.counts path <;> simp [reset, counted, turns]

/-- The counter of a path after a run is the number of its turns, as a 64-bit word. -/
theorem Rotation.peek_after (events : List Event) (path : String) :
    (Rotation.empty.after events).peek path = UInt64.ofNat (turns path events) := by
  induction events using List.reverseRecOn with
  | nil => rfl
  | append_singleton events event ih =>
    rw [Rotation.after_append_singleton, Event.peek_happen, turns_append_singleton, ih]
    split
    · rfl
    · split
      · rw [UInt64.ofNat_add]
        rfl
      · rfl

/-- The counter of a path after a run is the number of its turns, modulo 2⁶⁴. -/
theorem Rotation.toNat_peek_after (events : List Event) (path : String) :
    ((Rotation.empty.after events).peek path).toNat = turns path events % 2 ^ 64 := by
  rw [Rotation.peek_after, UInt64.toNat_ofNat']

/-- Events that do not concern a path take no part in the count of its turns. -/
theorem turns_filter_concerns (path : String) (events : List Event) :
    turns path (events.filter (Event.concerns path)) = turns path events := by
  induction events using List.reverseRecOn with
  | nil => rfl
  | append_singleton events event ih =>
    rw [List.filter_append, turns_append_singleton]
    by_cases concerned : event.concerns path
    · rw [List.filter_cons_of_pos concerned, List.filter_nil, turns_append_singleton, ih]
    · rw [List.filter_cons_of_neg concerned, List.filter_nil, List.append_nil, ih]
      cases event with
      | reset => exact absurd rfl concerned
      | request handler asked =>
        have other : (asked == path) = false := Bool.eq_false_iff.mpr concerned
        simp [Event.isReset, Event.counts, other]

/-- Two requests leave counters that read alike in either order. -/
theorem Event.peek_happen_comm (first second : Handler) (left right path : String)
    (rotation : Rotation) :
    ((Event.request second right).happen ((Event.request first left).happen rotation).2).2.peek
        path =
      ((Event.request first left).happen ((Event.request second right).happen rotation).2).2.peek
        path := by
  simp only [Event.peek_happen, Event.isReset, Bool.false_eq_true, if_false]
  split <;> split <;> rfl

/-- A request has the outcome that it had before a request for another path. -/
theorem Handler.respond_after_other (first second : Handler) {left right : String}
    (different : left ≠ right) (rotation : Rotation) :
    (second.respond right (first.respond left rotation).2).1 =
      (second.respond right rotation).1 := by
  refine Handler.respond_congr second ?_
  have kept := Event.peek_happen (.request first left) rotation right
  rwa [Event.isReset, Event.counts, beq_eq_false_iff_ne.mpr different, Bool.false_and] at kept

/-- Requests for different paths can change places: each has its outcome still, and so has all that
comes after them. -/
theorem outcomes_swap (rotation : Rotation) (first second : Handler) {left right : String}
    (different : left ≠ right) (later : List Event) :
    ∃ one two rest,
      outcomes rotation (.request first left :: .request second right :: later) =
        one :: two :: rest ∧
      outcomes rotation (.request second right :: .request first left :: later) =
        two :: one :: rest := by
  have afterLeft := Handler.respond_after_other first second different rotation
  have afterRight := Handler.respond_after_other second first different.symm rotation
  refine ⟨(first.respond left rotation).1, (second.respond right rotation).1, outcomes
    ((Event.request second right).happen ((Event.request first left).happen rotation).2).2 later,
    ?_, ?_⟩
  · rw [outcomes, outcomes, ← afterLeft]
    rfl
  · have alike := outcomes_congr
      (fun path => Event.peek_happen_comm first second left right path rotation) later
    rw [outcomes, outcomes, ← afterRight, alike]
    rfl

/-- What a run gives, whatever its handlers, paths and resets. The counter of a path is the number
of its turns. A request is answered by the response whose turn it is, or by none if the handler has
no response, and then changes nothing. An outcome depends on nothing but the events that concern its
path, and adjacent requests for different paths can change places. -/
theorem outcomes_of_run (events : List Event) :
    (∀ path, ((Rotation.empty.after events).peek path).toNat = turns path events % 2 ^ 64) ∧
      (∀ (handler : Handler) (path : String) (later : List Event)
          (answering : 0 < handler.responses.length),
        (outcomes .empty (events ++ .request handler path :: later))[events.length]? =
          some (some (handler.responses.get
            ⟨turns path events % 2 ^ 64 % handler.responses.length, Nat.mod_lt _ answering⟩))) ∧
      (∀ (handler : Handler) (path : String) (later : List Event), handler.responses = [] →
        (outcomes .empty (events ++ .request handler path :: later))[events.length]? = some none ∧
          Rotation.empty.after (events ++ [.request handler path]) =
            Rotation.empty.after events) ∧
      (∀ (handler : Handler) (path : String) (later others otherLater : List Event),
        others.filter (Event.concerns path) = events.filter (Event.concerns path) →
        (outcomes .empty (others ++ .request handler path :: otherLater))[others.length]? =
          (outcomes .empty (events ++ .request handler path :: later))[events.length]?) ∧
      ∀ (first second : Handler) (left right : String) (later : List Event), left ≠ right →
        ∃ one two rest,
          outcomes .empty (events ++ .request first left :: .request second right :: later) =
              outcomes .empty events ++ one :: two :: rest ∧
            outcomes .empty (events ++ .request second right :: .request first left :: later) =
              outcomes .empty events ++ two :: one :: rest := by
  refine ⟨Rotation.toNat_peek_after events, ?_, ?_, ?_, ?_⟩
  · intro handler path later answering
    rw [getElem?_outcomes, Event.happen, Handler.respond_of_pos answering]
    simp only [Rotation.toNat_peek_after]
  · intro handler path later silent
    rw [getElem?_outcomes, Rotation.after_append_singleton, Event.happen,
      Handler.respond_of_nil silent]
    exact ⟨rfl, rfl⟩
  · intro handler path later others otherLater alike
    have sameTurns : turns path others = turns path events := by
      rw [← turns_filter_concerns path others, alike, turns_filter_concerns]
    have samePeek : (Rotation.empty.after others).peek path =
        (Rotation.empty.after events).peek path := by
      rw [Rotation.peek_after, Rotation.peek_after, sameTurns]
    rw [getElem?_outcomes, getElem?_outcomes]
    exact congrArg some (Handler.respond_congr handler samePeek)
  · intro first second left right later different
    obtain ⟨one, two, rest, inOrder, swapped⟩ :=
      outcomes_swap (Rotation.empty.after events) first second different later
    refine ⟨one, two, rest, ?_, ?_⟩
    · rw [outcomes_append, inOrder]
    · rw [outcomes_append, swapped]

/-- A handler with two responses. -/
def pairHandler : Handler := ⟨.ofVerb .get, "/a", [⟨200, none⟩, ⟨404, none⟩]⟩

/-- A handler with three responses for the same requests. -/
def tripleHandler : Handler := ⟨.ofVerb .post, "/a", [⟨201, none⟩, ⟨400, none⟩, ⟨500, none⟩]⟩

/-- A handler without responses for the same requests. -/
def silentHandler : Handler := ⟨.ofVerb .put, "/a", []⟩

/-- Requests to all three handlers, the first of them forgotten. -/
def mixedRun : List Event :=
  [.request pairHandler "/a", .reset, .request pairHandler "/a", .request silentHandler "/a",
    .request tripleHandler "/b", .request tripleHandler "/a"]

/-- After the mixed run it is the turn of the third response. A silent request counts nothing,
requests for another path do not matter, and they can change places. -/
theorem outcomes_of_run_mixedRun :
    0 < tripleHandler.responses.length ∧ silentHandler.responses = [] ∧
      [Event.reset, .request pairHandler "/a", .request pairHandler "/a"].filter
          (Event.concerns "/b") = [Event.reset] ∧
      ("/a" : String) ≠ "/b" ∧
      (outcomes .empty (mixedRun ++ [Event.request tripleHandler "/a"]))[6]? =
        some (some ⟨500, none⟩) ∧
      (outcomes .empty (mixedRun ++ [Event.request silentHandler "/a"]))[6]? = some none ∧
      (outcomes .empty ([.reset, .request pairHandler "/a", .request pairHandler "/a"] ++
          [Event.request tripleHandler "/b"]))[3]? =
        (outcomes .empty ([.reset] ++ [Event.request tripleHandler "/b"]))[1]? ∧
      ∃ one two rest,
        outcomes .empty [Event.request pairHandler "/a", .request tripleHandler "/b"] =
          one :: two :: rest ∧
        outcomes .empty [Event.request tripleHandler "/b", .request pairHandler "/a"] =
          two :: one :: rest := by
  have answering : 0 < tripleHandler.responses.length := by decide
  have different : ("/a" : String) ≠ "/b" := by decide
  obtain ⟨_, turn, silent, _, _⟩ := outcomes_of_run mixedRun
  obtain ⟨_, _, _, alike, _⟩ := outcomes_of_run [.reset]
  obtain ⟨_, _, _, _, swap⟩ := outcomes_of_run []
  have others : [Event.reset, .request pairHandler "/a", .request pairHandler "/a"].filter
      (Event.concerns "/b") = [Event.reset].filter (Event.concerns "/b") := rfl
  exact ⟨answering, rfl, rfl, different, turn tripleHandler "/a" [] answering,
    (silent silentHandler "/a" [] rfl).1, alike tripleHandler "/b" [] _ [] others,
    swap pairHandler tripleHandler "/a" "/b" [] different⟩

end ApiMock
