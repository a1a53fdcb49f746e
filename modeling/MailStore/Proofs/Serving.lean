import Mathlib
import MailStore.Proofs.JsonStream
import MailStore.Proofs.Identity
import MailStore.Proofs.InlineLimit

/-!
# Serving a stream of requests

The server reads its input as a stream of JSON values (`Json.Reads`) and answers them in
order. A value that decodes into a request map is a request: an object whose numbers all fit
a double, or `null`, which decodes into the empty map (`Mcp.request?`); every other value is
skipped. A request without an id whose method starts with `notifications/` is a notification
and gets no answer (`Mcp.isNotification`); every other request gets exactly one, carrying the
request's id as it was read, or `null` when it has none (`Mcp.answerId`). Serving ends
cleanly at the end of the stream, and with `failed to decode request: …` at the first value
that is malformed. A value cut off by the end of the stream is skipped and read again, with
the same outcome: serving never returns from it, however many reads it is given.

Nothing a tool does can stop the server: a tool's failure is caught and answered as an error,
so every request is answered whatever the driver and the tools do.

## Main statements

* `Mcp.handle_answers`: one request gets its answer, or none when it is a notification.
* `Mcp.serve_returns`: serving a stream gives one answer for each request that is not a
  notification, in stream order and carrying the request's id, and ends as the stream's end
  says (`Mcp.ending`).
* `Mcp.serveChars_spins`: a stream cut off inside a value is never served to an end.
* `Mcp.serve_answers_each_request`: both together.
-/

namespace MailStore

/-! ### Members of objects -/

namespace Json

/-- An object whose member names are distinct gives each member's value by its name. -/
theorem get?_object_of_mem {ms : List (String × Json)} {k : String} {v : Json}
    (hnd : (ms.map Prod.fst).Nodup) (hm : (k, v) ∈ ms) : (Json.object ms).get? k = some v := by
  have found : (ms.reverse.find? (·.1 == k)).isSome :=
    List.find?_isSome.2 ⟨(k, v), List.mem_reverse.2 hm, by simp⟩
  obtain ⟨⟨k', v'⟩, hx⟩ := Option.isSome_iff_exists.1 found
  have hk : k' = k := by simpa using List.find?_some hx
  subst hk
  have hmem : (k', v') ∈ ms := List.mem_reverse.1 (List.mem_of_find?_eq_some hx)
  simp [get?, hx, List.eq_of_mem_of_mem hnd hmem hm]

/-- Sorting the members of an object keeps what each name gives, when names are distinct. -/
theorem get?_sortedObject_of_mem {ms : List (String × Json)} {k : String} {v : Json}
    (hnd : (ms.map Prod.fst).Nodup) (hm : (k, v) ∈ ms) : (sortedObject ms).get? k = some v := by
  have hperm := List.mergeSort_perm ms fun a b => decide (a.1.toUTF8.toList ≤ b.1.toUTF8.toList)
  exact get?_object_of_mem ((hperm.map Prod.fst).nodup_iff.2 hnd) (hperm.mem_iff.2 hm)

end Json

namespace Mcp

/-! ### Requests and their answers -/

/-- The request a value of the stream decodes into: an object whose numbers all fit a double
is read as itself, `null` as the empty request; any other value is none. -/
def request? : Json → Option Json
  | .object ms => if numbersFit (.object ms) then some (.object ms) else none
  | .null => some (.object [])
  | _ => none

/-- A notification: a request without an id whose method starts with `notifications/`. -/
def isNotification (req : Json) : Bool :=
  (req.get? "id").isNone && (text req "method").startsWith "notifications/"

/-- The id an answer to a request carries: the request's id as it was read, or `null`. -/
def answerId (req : Json) : Json := echo ((req.get? "id").getD .null)

/-- The requests among values that get an answer, in order. -/
def answered (js : List Json) : List Json :=
  (js.filterMap request?).filter fun req => !isNotification req

/-- How serving ends where reading the stream stops: it returns at the end of the stream,
and with the decoding error at a malformed value; at a value cut off by the end of the stream
it reads on. -/
def ending : Option Json.Stop → Ending
  | none => .drained
  | some (.malformed m) => .failed ("failed to decode request: " ++ m)
  | some .cutOff => .spins

/-- What answering a request gives: nothing for a notification, else an answer with the
request's id. -/
def Answers (req : Json) (r : Option Json) : Prop :=
  if isNotification req then r = none else ∃ a, r = some a ∧ a.get? "id" = some (answerId req)

@[simp]
theorem answer_id (id result : Json) : (answer id result).get? "id" = some id :=
  Json.get?_sortedObject_of_mem (by simp) (by simp)

@[simp]
theorem failure_id (id : Json) (code : Int) (message : String) :
    (failure id code message).get? "id" = some id :=
  Json.get?_sortedObject_of_mem (by simp) (by simp)

variable {σ : Type} [EntityHost σ] (d : Driver (EntityM σ))

omit [EntityHost σ] in
/-- A part of a request run under `attempt` never fails, whatever it does. -/
theorem attempt_ends {α : Type} (x : EntityM σ α) (s : σ) {Q : Except Failure α → σ → Prop}
    {E : Failure → σ → Prop} (hq : ∀ r s', Q r s') : Ends (attempt x) s Q E := by
  unfold attempt
  rw [Ends.tryCatch_iff]
  exact Ends.of_forall (fun r s' => hq r s') (fun f s' => by simpa using hq (.error f) s')

/-- One request gets its answer, or none when it is a notification; answering never fails. -/
theorem handle_answers (tools : Registry (EntityM σ)) (version : String) (req : Json) (s : σ) :
    Ends (handle d tools version req) s (fun r _ => Answers req r) fun _ _ => False := by
  unfold handle
  by_cases hn : isNotification req
  · have hn' : (req.get? "id").isNone = true ∧
        (text req "method").startsWith "notifications/" = true := by
      simpa [isNotification] using hn
    simp [hn', Answers, hn]
  · have hn' : ¬((req.get? "id").isNone = true ∧
        (text req "method").startsWith "notifications/" = true) := by
      simpa [isNotification] using hn
    simp only [hn', if_false, Answers, hn, Bool.false_eq_true]
    -- every method's answer is an answer or a failure with the request's id
    split
    · simp [answerId]
    · simp [answerId]
    · simp [answerId]
    · split
      · simp [answerId]
      · rw [Ends.bind_iff]
        refine attempt_ends _ _ fun r s' => ?_
        split <;> simp [answerId]
    · simp [answerId]

/-! ### The loop -/

/-- What serving the rest of a stream ends with: the answers given so far, then one answer
for each request of the rest that is not a notification, in order and with its id; and why
serving stopped, as the stream's end says. -/
def Served (acc : List Json) (js : List Json) (stop : Option Json.Stop)
    (res : List Json × Ending) : Prop :=
  res.2 = ending stop ∧ ∃ new, res.1 = acc.reverse ++ new ∧
    List.Forall₂ (fun req a => a.get? "id" = some (answerId req)) (answered js) new

theorem answered_cons_of_request {j req : Json} (js : List Json) (hj : request? j = some req) :
    answered (j :: js) = if isNotification req then answered js else req :: answered js := by
  by_cases hn : isNotification req <;> simp [answered, hj, hn]

theorem answered_cons_of_skipped {j : Json} (js : List Json) (hj : request? j = none) :
    answered (j :: js) = answered js := by
  simp [answered, hj]

/-- Where the stream ends, serving gives the answers so far and why it stopped. -/
theorem served_end (acc : List Json) (stop : Option Json.Stop) :
    Served acc [] stop (acc.reverse, ending stop) :=
  ⟨rfl, [], by simp, by simp [answered]⟩

/-- At a value cut off by the end of the stream, serving reads again until its reads run
out. -/
theorem serveChars_of_cutOff (tools : Registry (EntityM σ)) (version : String) {cs : List Char}
    (hn : Json.next cs = .stopped .cutOff) (acc : List Json) :
    ∀ fuel, serveChars d tools version fuel cs acc = pure (acc.reverse, .spins)
  | 0 => rfl
  | fuel + 1 => by
    simp only [serveChars, hn]
    exact serveChars_of_cutOff tools version hn acc fuel

/-- The loop that reads a stream to its end answers its requests, given fuel for each value
and one more: by induction on how the stream is read. -/
theorem serveChars_served (tools : Registry (EntityM σ)) (version : String)
    {cs : List Char} {js : List Json} {stop : Option Json.Stop} (hr : Json.Reads cs js stop) :
    ∀ (fuel : Nat) (acc : List Json) (s : σ), cs.length < fuel →
      Ends (serveChars d tools version fuel cs acc) s (fun res _ => Served acc js stop res)
        fun _ _ => False := by
  induction hr with
  | finished hn =>
    intro fuel acc s hfuel
    obtain ⟨fuel, rfl⟩ : ∃ f, fuel = f + 1 := ⟨fuel - 1, by omega⟩
    simp only [serveChars, hn, Ends.pure_iff]
    exact served_end acc none
  | stopped hn =>
    rename_i why
    intro fuel acc s hfuel
    obtain ⟨fuel, rfl⟩ : ∃ f, fuel = f + 1 := ⟨fuel - 1, by omega⟩
    cases why with
    | malformed m =>
      simp only [serveChars, hn, Ends.pure_iff]
      exact served_end acc (some (.malformed m))
    | cutOff =>
      rw [serveChars_of_cutOff d tools version hn, Ends.pure_iff]
      exact served_end acc (some .cutOff)
  | value hn hrest ih =>
    rename_i cs rest j js stop
    intro fuel acc s hfuel
    obtain ⟨fuel, rfl⟩ : ∃ f, fuel = f + 1 := ⟨fuel - 1, by omega⟩
    -- the rest of the stream is shorter, so the fuel left covers it
    have hlen : rest.length < fuel := by have := Json.length_next_value hn; omega
    simp only [serveChars, hn]
    split
    · rename_i req hreq
      have hj : request? j = some req := by rw [← hreq]; cases j <;> rfl
      rw [Ends.bind_iff]
      refine (handle_answers d tools version req s).mono (fun r s' hr => ?_) fun _ _ h => h
      unfold Answers at hr
      split at hr
      · -- a notification gets no answer
        rename_i hn'
        subst hr
        refine (ih fuel acc s' hlen).mono (fun res _ h => ?_) fun _ _ h => h
        simpa [Served, answered_cons_of_request js hj, hn'] using h
      · -- an answer joins those given, in order
        rename_i hn'
        obtain ⟨a, rfl, ha⟩ := hr
        refine (ih fuel (a :: acc) s' hlen).mono (fun res _ h => ?_) fun _ _ h => h
        obtain ⟨hstop, new, hres, hnew⟩ := h
        refine ⟨hstop, a :: new, by simp [hres], ?_⟩
        rw [answered_cons_of_request js hj, if_neg hn']
        exact List.Forall₂.cons ha hnew
    · -- a value that is no request is skipped
      rename_i hreq
      have hj : request? j = none := by rw [← hreq]; cases j <;> rfl
      refine (ih fuel acc s hlen).mono (fun res _ h => ?_) fun _ _ h => h
      simpa [Served, answered_cons_of_skipped js hj] using h

/-- A stream cut off inside a value is never served to an end: whatever the number of reads,
they run out before serving returns. By induction on how the stream is read: each value takes
a read, and the cut takes all that are left. -/
theorem serveChars_spins (tools : Registry (EntityM σ)) (version : String) {cs : List Char}
    {js : List Json} (hr : Json.Reads cs js (some .cutOff)) :
    ∀ (fuel : Nat) (acc : List Json) (s : σ),
      Ends (serveChars d tools version fuel cs acc) s (fun res _ => res.2 = .spins)
        fun _ _ => False := by
  generalize hstop : some Json.Stop.cutOff = stop at hr
  induction hr with
  | finished => cases hstop
  | stopped hn =>
    intro fuel acc s
    cases hstop
    rw [serveChars_of_cutOff d tools version hn, Ends.pure_iff]
  | value hn _ ih =>
    intro fuel acc s
    cases fuel with
    | zero => simp only [serveChars, Ends.pure_iff]
    | succ fuel =>
      simp only [serveChars, hn]
      split
      · rw [Ends.bind_iff]
        refine (handle_answers d tools version _ s).mono (fun r s' _ => ?_) fun _ _ h => h
        cases r <;> exact ih hstop fuel _ s'
      · exact ih hstop fuel acc s

/-- Serving a stream gives one answer for each value of the stream that decodes into a request
and is not a notification, in stream order and carrying the request's id (`null` when it has
none), and nothing for any other value; it ends as `ending` says of where reading the stream
stops. -/
theorem serve_returns (tools : Registry (EntityM σ)) (version : String) (input : String)
    (s : σ) :
    ∃ answers stop s', (serve d tools version input).run.run s = (.ok (answers, stop), s') ∧
      ∃ js why, Json.Reads input.toList js why ∧ stop = ending why ∧
        List.Forall₂ (fun req a => a.get? "id" = some (answerId req)) (answered js) answers := by
  obtain ⟨js, why, hr⟩ := Json.Reads.exists_of input.toList
  -- a read for each character and one more covers every value of the stream
  obtain ⟨⟨answers, stop⟩, s', hrun, hstop, new, hres, hnew⟩ :=
    (serveChars_served d tools version hr (input.length + 1) [] s
      (by rw [String.length_toList]; omega)).exists_run_ok
  simp only [List.reverse_nil, List.nil_append] at hres
  exact ⟨answers, stop, s', hrun, js, why, hr, hstop, hres ▸ hnew⟩

/-- The server answers each request of a stream exactly once, in order: serving gives one
answer for each value that decodes into a request and is not a notification, in stream order
and carrying the request's id, and nothing for any other value. It returns without an error
at the end of the stream, and with the decoding error at the first value that cannot be read,
malformed or nested deeper than `Json.maxDepth`. At a value cut off by the end of the stream it
never returns: however many reads it is given, they run out first. -/
theorem serve_answers_each_request (tools : Registry (EntityM σ)) (version : String)
    (input : String) (s : σ) :
    ∃ js why, Json.Reads input.toList js why ∧
      (∃ answers s',
        (serve d tools version input).run.run s = (.ok (answers, ending why), s') ∧
        List.Forall₂ (fun req a => a.get? "id" = some (answerId req)) (answered js) answers) ∧
      (why = some .cutOff → ∀ (fuel : Nat) (acc : List Json) (s₁ : σ), ∃ answers s',
        (serveChars d tools version fuel input.toList acc).run.run s₁ =
          (.ok (answers, .spins), s')) := by
  obtain ⟨answers, stop, s', hrun, js, why, hr, hstop, hanswers⟩ :=
    serve_returns d tools version input s
  refine ⟨js, why, hr, ⟨answers, s', hstop ▸ hrun, hanswers⟩, ?_⟩
  rintro rfl fuel acc s₁
  obtain ⟨⟨answers, _⟩, s', hrun, rfl⟩ :=
    (serveChars_spins d tools version hr fuel acc s₁).exists_run_ok
  exact ⟨answers, s', hrun⟩

end Mcp

end MailStore
