/-
The table of routes.

A body is answered by the handler that was registered last for its interface and its method, and
by no other; `Answers` has one case for each way in which that comes about or fails.  A pair is
found by both of its names and never by their joined text, so a dot in a name makes no difference.

A table is a list in the order of registration, and what was registered last for something is the
last of its entries: `LastWith` says that of any list, and of the handlers of operations as well.
-/
import BlogGateway.Rpc.Router

namespace BlogGateway

/-- The last entry of a list that has something. -/
def LastWith {α : Type} (Has : α → Prop) (entries : List α) (entry : α) : Prop :=
  ∃ before after, entries = before ++ entry :: after ∧ Has entry ∧ ∀ later ∈ after, ¬ Has later

section LastWith

variable {α : Type} {Has : α → Prop} [DecidablePred Has] {entries : List α} {entry : α}

/-- Looking through a list from its end finds the last entry. -/
theorem find?_reverse_eq_some_iff :
    entries.reverse.find? (fun entry => decide (Has entry)) = some entry ↔
      LastWith Has entries entry := by
  rw [List.find?_eq_some_iff_append]
  constructor
  · rintro ⟨has, after, before, split, none⟩
    refine ⟨before.reverse, after.reverse, ?_, of_decide_eq_true has, ?_⟩
    · rw [← List.reverse_reverse entries, split]
      simp
    · intro later hmem
      simpa using none later (List.mem_reverse.mp hmem)
  · rintro ⟨before, after, split, has, none⟩
    refine ⟨decide_eq_true has, after.reverse, before.reverse, ?_, ?_⟩
    · rw [split]
      simp
    · intro later hmem
      simpa using none later (List.mem_reverse.mp hmem)

theorem find?_reverse_eq_none_iff :
    entries.reverse.find? (fun entry => decide (Has entry)) = none ↔
      ∀ entry ∈ entries, ¬ Has entry := by
  simp [List.find?_eq_none]

end LastWith

namespace Rpc

variable {σ : Type} {routes : List (Route σ)} {api method : String}

/-- The route is for the method of the interface. -/
def Route.IsFor (api method : String) (route : Route σ) : Prop :=
  route.api = api ∧ route.method = method

instance : DecidablePred (Route.IsFor (σ := σ) api method) :=
  fun _ => inferInstanceAs (Decidable (_ ∧ _))

/-- How a body is answered by a table of routes. -/
inductive Answers (routes : List (Route σ)) (body : Bytes) (state : σ) : Router.Handled σ → Prop
  /-- The body is no request. -/
  | unread {cause : Json.Error} (unread : Request.parse body = .error cause) :
      Answers routes body state
        ⟨⟨0, none, some ⟨3, "message body is not an rpc request: " ++ cause.message⟩⟩, state, []⟩
  /-- The request is not a call. -/
  | noCall {request : Request} (parsed : Request.parse body = .ok request)
      (other : request.verb ≠ "call") :
      Answers routes body state
        ⟨⟨request.call.id, none, some ⟨3, "rpc request method should be call"⟩⟩, state, []⟩
  /-- There is no route for the method of the interface. -/
  | unknown {request : Request} (parsed : Request.parse body = .ok request)
      (called : request.verb = "call")
      (absent : ∀ route ∈ routes, ¬ route.IsFor request.call.api request.call.method) :
      Answers routes body state
        ⟨⟨request.call.id, none, some ⟨2, "route: " ++ request.call.api ++ "."
          ++ request.call.method ++ " not registered"⟩⟩, state, []⟩
  /-- The handler that was registered last is run and ends well. -/
  | answered {request : Request} {route : Route σ} {value? : Option Json.Value} {after : σ}
      {events : List Event} (parsed : Request.parse body = .ok request)
      (called : request.verb = "call")
      (last : LastWith (Route.IsFor request.call.api request.call.method) routes route)
      (ran : route.handler request.call state = ⟨.ok value?, after, events⟩) :
      Answers routes body state ⟨⟨request.call.id, value?, none⟩, after, events⟩
  /-- The handler that was registered last is run and fails. -/
  | failed {request : Request} {route : Route σ} {error : Error} {after : σ}
      {events : List Event} (parsed : Request.parse body = .ok request)
      (called : request.verb = "call")
      (last : LastWith (Route.IsFor request.call.api request.call.method) routes route)
      (ran : route.handler request.call state = ⟨.error error, after, events⟩) :
      Answers routes body state ⟨⟨request.call.id, none, some error⟩, after, events⟩

/-! ### Which handler is found -/

/-- Comparing both names finds the routes for the pair. -/
theorem decide_isFor (route : Route σ) :
    (decide (route.api = api) && decide (route.method = method))
      = decide (route.IsFor api method) := by
  rw [Bool.eq_iff_iff, Bool.and_eq_true, decide_eq_true_iff, decide_eq_true_iff,
    decide_eq_true_iff]
  rfl

theorem handler?_eq_some_iff {handler : Handler σ} :
    (Router.mk routes).handler? api method = some handler ↔
      ∃ route, LastWith (Route.IsFor api method) routes route ∧ route.handler = handler := by
  unfold Router.handler?
  simp only [decide_isFor, Option.map_eq_some_iff, find?_reverse_eq_some_iff]

theorem handler?_eq_none_iff :
    (Router.mk routes).handler? api method = none ↔ ∀ route ∈ routes, ¬ route.IsFor api method := by
  unfold Router.handler?
  simp only [decide_isFor, Option.map_eq_none_iff, find?_reverse_eq_none_iff]

/-! ### Answers -/

section Handle

variable {body : Bytes} {state : σ} {request : Request} {route : Route σ}
  {handled : Router.Handled σ}

theorem handle_of_unread {cause : Json.Error} (unread : Request.parse body = .error cause) :
    (Router.mk routes).handle body state
      = ⟨⟨0, none, some ⟨3, "message body is not an rpc request: " ++ cause.message⟩⟩,
          state, []⟩ := by
  unfold Router.handle Router.readCall
  rw [unread]
  rfl

theorem handle_of_noCall (parsed : Request.parse body = .ok request)
    (other : request.verb ≠ "call") :
    (Router.mk routes).handle body state
      = ⟨⟨request.call.id, none, some ⟨3, "rpc request method should be call"⟩⟩, state, []⟩ := by
  have read : Router.readCall body
      = .error (request.call.id, ⟨3, "rpc request method should be call"⟩) := by
    unfold Router.readCall
    rw [parsed]
    exact if_neg other
  unfold Router.handle
  rw [read]
  rfl

/-- A call is dispatched, and its outcome goes back under its id. -/
theorem handle_of_called (parsed : Request.parse body = .ok request)
    (called : request.verb = "call") {outcome : Outcome σ (Option Json.Value)}
    (dispatched : (Router.mk routes).dispatch request.call state = outcome) :
    (Router.mk routes).handle body state
      = ⟨.ofAnswer request.call.id outcome.result, outcome.state, outcome.events⟩ := by
  have read : Router.readCall body = .ok request.call := by
    unfold Router.readCall
    rw [parsed]
    exact if_pos called
  unfold Router.handle
  rw [read, ← dispatched]

theorem dispatch_of_unknown {call : Call}
    (absent : ∀ route ∈ routes, ¬ route.IsFor call.api call.method) :
    (Router.mk routes).dispatch call state
      = ⟨.error ⟨2, "route: " ++ call.api ++ "." ++ call.method ++ " not registered"⟩,
          state, []⟩ := by
  unfold Router.dispatch
  rw [handler?_eq_none_iff.mpr absent]
  rfl

/-- The handler that was registered last is run, and no other. -/
theorem dispatch_of_last {call : Call}
    (last : LastWith (Route.IsFor call.api call.method) routes route) :
    (Router.mk routes).dispatch call = route.handler call := by
  unfold Router.dispatch
  rw [handler?_eq_some_iff.mpr ⟨route, last, rfl⟩]

theorem handle_of_answers (answers : Answers routes body state handled) :
    (Router.mk routes).handle body state = handled := by
  cases answers with
  | unread unread => exact handle_of_unread unread
  | noCall parsed other => exact handle_of_noCall parsed other
  | unknown parsed called absent =>
      exact handle_of_called parsed called (dispatch_of_unknown absent)
  | answered parsed called last ran | failed parsed called last ran =>
      rw [← dispatch_of_last last] at ran
      exact handle_of_called parsed called ran

/-- Every body is answered in one of the ways. -/
theorem answers_handle (routes : List (Route σ)) (body : Bytes) (state : σ) :
    Answers routes body state ((Router.mk routes).handle body state) := by
  cases parsed : Request.parse body with
  | error cause =>
      rw [handle_of_unread parsed]
      exact .unread parsed
  | ok request =>
  by_cases called : request.verb = "call"
  · cases found : (Router.mk routes).handler? request.call.api request.call.method with
    | none =>
        have absent := handler?_eq_none_iff.mp found
        rw [handle_of_called parsed called (dispatch_of_unknown absent)]
        exact .unknown parsed called absent
    | some handler =>
        obtain ⟨route, last, -⟩ := handler?_eq_some_iff.mp found
        rw [handle_of_called parsed called rfl, dispatch_of_last last]
        cases ran : route.handler request.call state with
        | mk result after events =>
        cases result with
        | ok value? => exact .answered parsed called last ran
        | error error => exact .failed parsed called last ran
  · rw [handle_of_noCall parsed called]
    exact .noCall parsed called

/-- **A body is answered by the handler that was registered last for its pair of names.** -/
theorem handle_eq_iff_answers :
    (Router.mk routes).handle body state = handled ↔ Answers routes body state handled := by
  refine ⟨?_, handle_of_answers⟩
  rintro rfl
  exact answers_handle routes body state

/-- No answer has both a result and an error. -/
theorem Answers.exclusive (answers : Answers routes body state handled) :
    handled.response.result = none ∨ handled.response.error = none := by
  cases answers with
  | unread | noCall | unknown | failed => exact .inl rfl
  | answered => exact .inr rfl

end Handle

/-- Joined by a dot, the names of both pairs are the same. -/
example : (Router.mk [(⟨"a.b", "c", fun _ => pure none⟩ : Route Unit)]).handler? "a" "b.c" = none :=
  handler?_eq_none_iff.mpr (by decide)

end Rpc

end BlogGateway
