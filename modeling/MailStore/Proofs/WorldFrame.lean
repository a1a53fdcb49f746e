import Mathlib
import MailStore.Proofs.Shape
import MailStore.Console.EntityScript

/-!
# The world driver leaves the session alone

The world in memory answers a session's calls as a store does: each call is counted, takes the
fault queued for it, and reads the world's objects and tables or records a read or a
subscription. All of that is kept in the world and the rig of the state, so every call of
`WorldDriver.driver` leaves alone any view of the state that changing the world or the rig
does not change. The entities of the entity bench are such a view, so the bench's driver
meets the hypothesis under which the session's invariants are proved.

## Main statements

* `WorldDriver.driver_stays`: every call of the world driver leaves alone a view of the state
  that the world and the rig do not decide.
* `WorldDriver.idsOfNames_stays`, `WorldDriver.namesOfIds_stays`: so do its name lookups.
* `EntityBench.driver_stays`: the bench's driver keeps the shape of the session.
-/

namespace MailStore.Console

variable {σ β : Type} [WorldHost σ] {π : σ → β}
  (hrig : ∀ s r, π (Rigged.setRig s r) = π s) (hworld : ∀ s w, π (WorldHost.setWorld s w) = π s)

namespace Script

include hrig

theorem modifyRig_stays (f : Rig → Rig) : Stays π (modifyRig f : ScriptM σ Unit) :=
  Stays.modifyGet fun s => hrig s _

omit hrig in
theorem rig_stays : Stays π (rig : ScriptM σ Rig) := .bind .get fun _ => .pure

/-- Taking a fault changes only the queue of faults. -/
theorem fault_stays (keys : List String) (what : String) :
    Stays π (fault keys what : ScriptM σ (Option String)) := by
  unfold fault
  refine .bind rig_stays fun r => ?_
  refine .bind (modifyRig_stays hrig _) fun _ => ?_
  split
  · exact .throw_bind
  · exact .pure

theorem count_stays (name : String) (n : Nat) : Stays π (count name n : ScriptM σ Unit) :=
  modifyRig_stays hrig _

theorem enter_stays (c : Call) : Stays π (enter c : ScriptM σ (Option String)) :=
  .bind (count_stays hrig _ _) fun _ => fault_stays hrig _ _

/-- A registry's resolver counts each call and takes its fault, and reads the registry. -/
theorem registryResolver_stays {registry : ScriptM σ NameRegistry} (hreg : Stays π registry)
    (target : Option String) (observe : Nat → Nat → ScriptM σ Unit) :
    (∀ names, Stays π ((registryResolver registry target false observe).idsOfNames names)) ∧
      ∀ tags, Stays π ((registryResolver registry target false observe).namesOfIds tags) := by
  refine ⟨fun names => ?_, fun tags => ?_⟩
  all_goals
    simp only [registryResolver]
    refine .bind (count_stays hrig _ _) fun _ => ?_
    exact .bind (fault_stays hrig _ _) fun _ => .bind hreg fun _ => .pure

end Script

namespace WorldDriver

theorem world_stays : Stays π (world : ScriptM σ World) := .bind .get fun _ => .pure

include hworld in
theorem modifyWorld_stays (f : World → World) : Stays π (modifyWorld f : ScriptM σ Unit) :=
  Stays.modifyGet fun s => hworld s _

theorem nodeAt_stays (h : Nat) : Stays π (nodeAt h : ScriptM σ Node) := by
  unfold nodeAt
  refine .bind world_stays fun w => ?_
  split
  · exact .pure
  · exact .throw

theorem registryOf_stays (h : Nat) : Stays π (registryOf h : ScriptM σ NameRegistry) :=
  .bind (nodeAt_stays h) fun _ => .bind (nodeAt_stays _) fun _ => .pure

include hrig in
/-- Resolving names against the registry of an object's store leaves such a view alone. -/
theorem idsOfNames_stays (h : Nat) (names : List NamedId) :
    Stays π ((driver : Driver (ScriptM σ)).idsOfNames h names) := by
  simp only [driver, resolverOf, bind_assoc, pure_bind]
  exact .bind (nodeAt_stays h) fun _ => .bind (nodeAt_stays _) fun _ =>
    (Script.registryResolver_stays hrig (registryOf_stays h) _ _).1 names

include hrig in
/-- So does resolving ids. -/
theorem namesOfIds_stays (h : Nat) (tags : List Tag) :
    Stays π ((driver : Driver (ScriptM σ)).namesOfIds h tags) := by
  simp only [driver, resolverOf, bind_assoc, pure_bind]
  exact .bind (nodeAt_stays h) fun _ => .bind (nodeAt_stays _) fun _ =>
    (Script.registryResolver_stays hrig (registryOf_stays h) _ _).2 tags

include hrig in
theorem openObject_stays (call : String) (kind : NodeKind) (kindName otherName : String) (h : Nat)
    (id : Bytes) : Stays π (openObject call kind kindName otherName h id : ScriptM σ Nat) := by
  unfold openObject
  refine .bind (.map (Script.enter_stays hrig _)) fun _ => .bind world_stays fun w => ?_
  split
  · split
    · exact .pure
    · exact .throw
  · exact .throw

include hrig hworld in
/-- **The world driver leaves the session alone**: every call it answers leaves alone a view
of the state that the world and the rig do not decide. -/
theorem driver_stays [EntityHost σ] : (driver : Driver (ScriptM σ)).Stays π := by
  refine ⟨⟨?_, fun id => ?_, fun h tags => ?_, fun h id => ?_, fun h id => ?_, fun h => ?_,
    fun h => ?_, fun h => ?_⟩, fun t q => ?_, fun t l => ?_, fun h => ?_⟩
  · -- the stores table
    exact .bind (.map (Script.enter_stays hrig _)) fun _ => .pure
  · -- opening a store
    refine .bind (.map (Script.enter_stays hrig _)) fun _ => .bind world_stays fun w => ?_
    split
    · exact .pure
    · exact .throw
  · -- properties
    exact .bind (nodeAt_stays h) fun _ => .bind (Script.enter_stays hrig _) fun _ =>
      .bind world_stays fun _ => .pure
  · exact openObject_stays hrig _ _ _ _ _ _
  · exact openObject_stays hrig _ _ _ _ _ _
  · -- the receive folder and the two tables of a folder
    exact .bind (nodeAt_stays h) fun _ => .bind (.map (Script.enter_stays hrig _)) fun _ => .pure
  · exact .bind (nodeAt_stays h) fun _ => .bind (.map (Script.enter_stays hrig _)) fun _ => .pure
  · exact .bind (nodeAt_stays h) fun _ => .bind (.map (Script.enter_stays hrig _)) fun _ => .pure
  · -- a read records itself, and may queue a notification of its table
    refine .bind world_stays fun _ => .bind (modifyWorld_stays hworld _) fun _ =>
      .bind (Script.enter_stays hrig _) fun kind => ?_
    extract_lets jp
    have hjp : ∀ u, Stays π (jp u) := fun _ => .bind world_stays fun _ => .pure
    split
    · exact .bind (modifyWorld_stays hworld _) hjp
    · exact hjp ()
  · -- subscribing records the subscription in the world
    exact .bind world_stays fun _ => .bind (.map (Script.enter_stays hrig _)) fun _ =>
      .bind world_stays fun _ => .bind (modifyWorld_stays hworld _) fun _ => .pure
  · -- ending a subscription marks it in the world
    refine .bind world_stays fun _ => .bind (.map (Script.enter_stays hrig _)) fun _ =>
      .bind world_stays fun _ => ?_
    split
    · split
      · exact modifyWorld_stays hworld _
      · exact .throw
    · exact .throw

end WorldDriver

namespace EntityBench

instance : LawfulEntityHost EntityBench := ⟨fun _ _ => rfl⟩

/-- The bench's driver keeps the shape of the session. -/
theorem driver_stays : driver.Stays fun s : EntityBench => (ent s).shape :=
  WorldDriver.driver_stays (fun _ _ => rfl) fun _ _ => rfl

end EntityBench

end MailStore.Console
