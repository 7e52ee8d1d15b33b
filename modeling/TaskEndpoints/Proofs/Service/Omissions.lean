import TaskEndpoints.Proofs.Container.Omissions
import TaskEndpoints.Service.Basic

/-!
# Answers do not tell how fields are left out

The service reads the list of the engine only through the containers that it describes. The main
statement says that an entry describes the same container however fields are left out of it, and that
every request is answered alike, with the same records and calls, whichever entry the engine lists.
-/

namespace TaskEndpoints

open Http

/-- The engine with another list. -/
def LimitedEngine.withList (e : LimitedEngine) (entries : List Value) : LimitedEngine :=
  { e with engine := { e.engine with list := .value (.list entries) } }

/-- The same surroundings, in which the engine has another list. -/
def Surroundings.withList (w : Surroundings) (entries : List Value) : Surroundings :=
  { w with engine := w.engine.withList entries }

variable {entries entries' : List Value}

theorem LimitedEngine.containers_withList (e : LimitedEngine) (entries : List Value) :
    (e.withList entries).containers = e.limit.guard "list containers"
      (Run.ofExcept ((entries.mapM Container.ofEntry).mapError .entry)) := by
  have hlist : (e.withList entries).engine.containers =
      Run.ofExcept (entries.mapM fun entry => (Container.ofEntry entry).mapError .entry) := by
    rw [Engine.containers, withList]
    show Run.ofExcept ((Entry.elements (.list entries)).mapError EngineError.entry >>= _) = _
    rw [Entry.elements_list]
    rfl
  rw [containers, hlist, mapM_mapError]
  rfl

theorem LimitedEngine.containers_withList_congr (e : LimitedEngine)
    (h : entries.mapM Container.ofEntry = entries'.mapM Container.ofEntry) :
    (e.withList entries).containers = (e.withList entries').containers := by
  rw [containers_withList, containers_withList, h]

/-- A metadata request is answered from the described containers and the samples of the engine. -/
theorem Description.value_withList_congr (d : Description) (e : LimitedEngine)
    (h : entries.mapM Container.ofEntry = entries'.mapM Container.ofEntry) (kind : MetadataKind)
    (q : CallerQuery) :
    d.value (e.withList entries) kind q = d.value (e.withList entries') kind q := by
  have hsnapshot : snapshot (e.withList entries) = snapshot (e.withList entries') := by
    rw [snapshot, snapshot, e.containers_withList_congr h]
  have htask : task q (e.withList entries) = task q (e.withList entries') := by
    rw [task, task, hsnapshot]
  have hcaller : caller q (e.withList entries) = caller q (e.withList entries') := by
    rw [caller, caller, hsnapshot]
  cases kind with
  | taskMetadata => rw [value, value, htask]
  | taskStats =>
      rw [value, value, htask]
      rfl
  | containerMetadata => rw [value, value, hcaller]
  | containerStats =>
      rw [value, value, hcaller]
      rfl

namespace Service

/-- Lists that describe the same containers have the same answers. -/
theorem answer_withList_congr {ε : Type} (s : Service) (w : Surroundings)
    (h : entries.mapM Container.ofEntry = entries'.mapM Container.ofEntry) (request : Request) :
    (s.answer (w.withList entries) request : Run ε Answer) =
      s.answer (w.withList entries') request := by
  have hview : s.view (w.withList entries) request.address =
      s.view (w.withList entries') request.address := by
    funext e text
    cases e with
    | metadata kind =>
        have hvalue := s.description.value_withList_congr w.engine h kind
          (s.description.query text request.address)
        simp only [view, Description.respond, Surroundings.withList, hvalue]
    | role => rfl
    | roleArn => rfl
    | temporary => rfl
    | asset => rfl
  rw [answer, answer, hview]

/-- A well-typed entry describes the same container after any edit that only changes how fields are left
out, or fields that are not read; that there are no networks is told apart from nothing being told of
them. Every request is answered alike with the entry before and after the edit in the list. -/
theorem edits_without_influence {v w : Value} (hv : Entry.WellTyped v) (h : Entry.Edited v w) :
    (∃ c, Container.ofEntry v = .ok c ∧ Container.ofEntry w = .ok c ∧
      ∀ entry inner, v = .map entry → Entry.HasSettings entry inner →
        (c.networks = none ↔ Assoc.get? inner (.text "Networks") ∈ [none, some .null]) ∧
        (c.networks = some [] ↔ Assoc.get? inner (.text "Networks") = some (.map []))) ∧
      ∀ (ε : Type) (s : Service) (surroundings : Surroundings) (before after : List Value)
        (request : Request),
        (s.answer (surroundings.withList (before ++ v :: after)) request : Run ε Answer) =
          s.answer (surroundings.withList (before ++ w :: after)) request := by
  have hsame := Container.ofEntry_eq_of_edited h
  constructor
  · obtain ⟨c, hc, -⟩ := Container.exists_ofEntry hv
    refine ⟨c, hc, hsame.symm.trans hc, ?_⟩
    intro entry inner hentry hsettings
    subst hentry
    exact Entry.networks_told hsettings (Container.ofEntry_eq_ok_iff.mp hc).1
  · intro ε s surroundings before after request
    apply answer_withList_congr
    rw [List.mapM_append, List.mapM_append, List.mapM_cons, List.mapM_cons, hsame]

/-- An entry of an engine that writes out what is empty, and one of an engine that leaves it out, tells
some of it by null and adds fields of its own. -/
theorem edits_without_influence_example :
    let v := Value.object [("Id", .text "a1"), ("Names", .list [.text "/web"]), ("Image", .text ""),
      ("Created", .int 0), ("Mounts", .list []),
      ("NetworkSettings", .object [("Networks", .object [("net", .object [
        ("IPAddress", .text "10.0.0.2"), ("Aliases", .null)]), ("none", .null)])]),
      ("Ports", .list [.object [("PrivatePort", .int 80), ("PublicPort", .int 0)]])]
    let w := Value.object [("State", .text "running"), ("Id", .text "a1"), ("ID", .text ""),
      ("Names", .list [.text "/web"]), ("Labels", .null), ("Created", .null),
      ("NetworkSettings", .object [("Networks", .object [("net", .object [("Gateway", .text "10.0.0.1"),
        ("GlobalIPv6Address", .text ""), ("Aliases", .list []), ("IPAddress", .text "10.0.0.2")]),
        ("none", .null)])]),
      ("Ports", .list [.object [("IP", .null), ("PrivatePort", .int 80), ("Type", .text "")]])]
    Entry.WellTyped v ∧ Entry.Edited v w ∧
      ∃ c, Container.ofEntry v = .ok c ∧ Container.ofEntry w = .ok c := by
  intro v w
  have hv : Entry.WellTyped v := by
    refine ⟨_, rfl, ?_⟩
    exact
      { id := Or.inr ⟨_, rfl⟩
        otherId := Or.inl rfl
        names := Or.inr ⟨_, rfl, List.forall_mem_singleton.mpr ⟨_, rfl⟩⟩
        labels := Or.inl rfl
        networks := Or.inr ⟨_, rfl, Or.inr ⟨_, rfl, List.forall_mem_cons.mpr
          ⟨⟨⟨_, rfl⟩, Or.inr ⟨_, rfl, Or.inr ⟨_, rfl⟩, Or.inl rfl, Or.inl rfl⟩⟩,
            List.forall_mem_singleton.mpr ⟨⟨_, rfl⟩, Or.inl rfl⟩⟩⟩⟩
        image := Or.inr (Or.inl ⟨_, rfl⟩)
        imageId := Or.inl rfl
        created := Or.inr ⟨_, rfl⟩
        ports := Or.inr ⟨_, rfl, List.forall_mem_singleton.mpr
          ⟨_, rfl, Or.inr ⟨_, rfl⟩, Or.inr ⟨_, rfl⟩, Or.inl rfl, Or.inl rfl⟩⟩
        mounts := Or.inr ⟨_, rfl, fun mount hm => by cases hm⟩ }
  have h : Entry.Edited v w := by
    refine ⟨_, _, rfl, rfl, ?_⟩
    exact
      { id := Or.inr ⟨_, _, rfl, rfl, rfl⟩
        otherId := Or.inl (by decide)
        names := Or.inr ⟨_, _, rfl, rfl, rfl⟩
        labels := Or.inl (by decide)
        networks := ⟨_, _, Or.inr rfl, Or.inr rfl, Or.inr ⟨_, _, rfl, rfl, _, _, rfl, rfl,
          .cons ⟨rfl, Or.inr ⟨_, _, rfl, rfl, Or.inr ⟨_, _, rfl, rfl, rfl⟩,
            Or.inl (by decide), Or.inl (by decide)⟩⟩
          (.cons ⟨rfl, Or.inl ⟨rfl, rfl⟩⟩ .nil)⟩⟩
        image := Or.inl (by decide)
        imageId := Or.inl (by decide)
        created := Or.inl (by decide)
        ports := Or.inr ⟨_, _, rfl, rfl, _, _, rfl, rfl, .cons ⟨_, _, rfl, rfl,
          Or.inr ⟨_, _, rfl, rfl, rfl⟩, Or.inl (by decide), Or.inl (by decide),
          Or.inl (by decide)⟩ .nil⟩
        mounts := Or.inl (by decide) }
  obtain ⟨⟨c, hc, hc', -⟩, -⟩ := edits_without_influence hv h
  exact ⟨hv, h, c, hc, hc'⟩

end Service

end TaskEndpoints
