/-
The kernel's table of routes through the mesh interface, as the commands that
succeeded have left it.  The mesh tracks its routes by the text of the CIDR, the
kernel knows only the masked network, so a network may be tracked under several
texts and be gone when the first of them is deleted.
-/
import MacVz.MeshCommands

namespace MacVz

namespace Wireguard

open Interleaving StatefulFrame
open Podnet (Command CommandError Reply benignError)
open Privhelper (normalizeCIDR)

variable {desired : List String}

/-- The operation and the target of a `route` command. -/
def routeRequest (c : Command) : Option (String × String) :=
  match c.name, c.args with
  | "route", [_, _, op, _, target, _, _] => some (op, target)
  | _, _ => none

/-- What a `route` command does to the routes of the interface. -/
def routeEffect (c : Command) (table : Finset String) : Finset String :=
  match routeRequest c with
  | none => table
  | some (op, target) =>
    match normalizeCIDR target with
    | none => table
    | some net =>
      if op = "add" then insert net table
      else if op = "delete" then table.erase net
      else table

/-- The networks with a route after the commands, newest first; at the beginning
there is none, and a command that failed has changed nothing. -/
def routeTable : List (Command × Reply) → Finset String
  | [] => ∅
  | (c, .ok _) :: earlier => routeEffect c (routeTable earlier)
  | (_, .error _) :: earlier => routeTable earlier

/-- The kernel tells the truth: what exists is in the table, what is not in the
table is not.  It may fail in any other way at any time. -/
structure TruthfulHost (host : MeshHost) : Prop where
  exists_present : ∀ {issued : List (Command × Reply)} {m : Mesh} {target net : String}
    {e : CommandError}, normalizeCIDR target = some net →
      host.reply issued (m.routeCmd "add" target) = .error e →
      benignError ["file exists"] e = true → net ∈ routeTable issued
  missing_absent : ∀ {issued : List (Command × Reply)} {m : Mesh} {target net : String}
    {e : CommandError}, normalizeCIDR target = some net →
      host.reply issued (m.routeCmd "delete" target) = .error e →
      benignError ["not in table"] e = true → net ∉ routeTable issued

variable {host : MeshHost} {m : Mesh} {s s' : MeshSession} {target net : String}

theorem mem_routeEffect_add {table : Finset String} :
    net ∈ routeEffect (m.routeCmd "add" target) table ↔
      net ∈ table ∨ normalizeCIDR target = some net := by
  change net ∈ (match normalizeCIDR target with
    | none => table
    | some masked => insert masked table) ↔ _
  cases normalizeCIDR target with
  | none => simp
  | some masked => simp [or_comm, eq_comm]

theorem mem_routeEffect_delete {table : Finset String} :
    net ∈ routeEffect (m.routeCmd "delete" target) table ↔
      net ∈ table ∧ normalizeCIDR target ≠ some net := by
  change net ∈ (match normalizeCIDR target with
    | none => table
    | some masked => table.erase masked) ↔ _
  cases normalizeCIDR target with
  | none => simp
  | some masked => simp [and_comm, eq_comm]

theorem routeTable_other {c : Command} (hname : c.name ≠ "route") (reply : Reply)
    (issued : List (Command × Reply)) : routeTable ((c, reply) :: issued) = routeTable issued := by
  have hrequest : routeRequest c = none := by
    unfold routeRequest
    split
    · rename_i hroute _
      exact absurd hroute hname
    · rfl
  cases reply with
  | ok out => simp only [routeTable, routeEffect, hrequest]
  | error e => rfl

def MeshSession.routing (s : MeshSession) : Finset String × Finset String :=
  (routeTable s.issued, s.mesh.routes)

abbrev Quiet : MeshSession → MeshSession → Prop := Same MeshSession.routing

abbrev SameConfig : MeshSession → MeshSession → Prop := Same fun s => s.mesh.cfg

/-- A route was deleted: it is not tracked, and its network is not in the table. -/
structure Removed (target : String) (s s' : MeshSession) : Prop where
  routes : s'.mesh.routes = s.mesh.routes.erase target
  table : ∀ net, net ∈ routeTable s'.issued ↔
    net ∈ routeTable s.issued ∧ normalizeCIDR target ≠ some net

/-- A route was added: it is tracked, and its network is in the table. -/
structure Added (target : String) (s s' : MeshSession) : Prop where
  routes : s'.mesh.routes = insert target s.mesh.routes
  table : ∀ net, net ∈ routeTable s'.issued ↔
    net ∈ routeTable s.issued ∨ normalizeCIDR target = some net

theorem Quiet.table (h : Quiet s s') : routeTable s'.issued = routeTable s.issued :=
  congrArg Prod.fst h

theorem Quiet.routes (h : Quiet s s') : s'.mesh.routes = s.mesh.routes :=
  congrArg Prod.snd h

/-- A delete that succeeds, or fails for a route that is missing, leaves the network
out of the table. -/
theorem TruthfulHost.table_delete (h : TruthfulHost host) {issued : List (Command × Reply)}
    (hsettled : ∀ e, host.reply issued (m.routeCmd "delete" target) = .error e →
      benignError ["not in table"] e = true) : net ∈ routeTable ((m.routeCmd "delete" target,
        host.reply issued (m.routeCmd "delete" target)) :: issued) ↔
      net ∈ routeTable issued ∧ normalizeCIDR target ≠ some net := by
  cases hreply : host.reply issued (m.routeCmd "delete" target) with
  | ok out => exact mem_routeEffect_delete
  | error e =>
    refine ⟨fun hnet => ⟨hnet, fun hmasked => ?_⟩, And.left⟩
    exact h.missing_absent hmasked hreply (hsettled e hreply) hnet

theorem TruthfulHost.table_add (h : TruthfulHost host) {issued : List (Command × Reply)}
    (hsettled : ∀ e, host.reply issued (m.routeCmd "add" target) = .error e →
      benignError ["file exists"] e = true) : net ∈ routeTable ((m.routeCmd "add" target,
        host.reply issued (m.routeCmd "add" target)) :: issued) ↔
      net ∈ routeTable issued ∨ normalizeCIDR target = some net := by
  cases hreply : host.reply issued (m.routeCmd "add" target) with
  | ok out => exact mem_routeEffect_add
  | error e =>
    change net ∈ routeTable issued ↔ _
    refine ⟨Or.inl, fun hnet => hnet.elim id fun hmasked => ?_⟩
    exact h.exists_present hmasked hreply (hsettled e hreply)

/-- A route no longer wanted is removed, or the routes stay as they are. -/
theorem removeUnwanted_cases (h : TruthfulHost host) (m : Mesh) (want : List String)
    (target : String) (s : MeshSession) :
    (Quiet s (final ((removeUnwanted host m want target).run s)) ∧
        ∀ s', (removeUnwanted host m want target).run s = .ok () s' → target ∈ want) ∨
      target ∉ want ∧ ∃ s', (removeUnwanted host m want target).run s = .ok () s' ∧
        Removed target s s' := by
  by_cases hwant : target ∈ want
  · refine Or.inl ⟨?_, fun _ _ => hwant⟩
    rw [removeUnwanted, if_pos hwant]
    rfl
  · rw [removeUnwanted, if_neg hwant]
    rcases attempt_cases host (m.routeCmd "delete" target) ["not in table"]
      (.deleteRoute target) s with ⟨e, hreply, -, hrun⟩ | ⟨hsettled, hrun⟩
    · refine Or.inl ?_
      rw [EStateM.run_bind, hrun, hreply]
      exact ⟨rfl, fun s' hs' => by cases hs'⟩
    · rw [EStateM.run_bind, hrun]
      exact Or.inr ⟨hwant, _, rfl, rfl, fun net => h.table_delete hsettled⟩

/-- A route is added, or the routes stay as they are. -/
theorem addRoute_cases (h : TruthfulHost host) (target : String) (s : MeshSession) :
    (Quiet s (final ((addRoute host target).run s)) ∧
        ∀ s', (addRoute host target).run s = .ok () s' → target ∈ s'.mesh.routes) ∨
      ∃ s', (addRoute host target).run s = .ok () s' ∧ Added target s s' := by
  have hget : (addRoute host target).run s =
      (if target ∈ s.mesh.routes then pure () else do
        attempt host (s.mesh.routeCmd "add" target) ["file exists"] (.addRoute target)
        modifyMesh fun m => { m with routes := insert target m.routes } : MeshM Unit).run s := rfl
  by_cases hmem : target ∈ s.mesh.routes
  · rw [if_pos hmem] at hget
    rw [hget]
    refine Or.inl ⟨rfl, fun s' hs' => ?_⟩
    cases hs'
    exact hmem
  · rw [if_neg hmem] at hget
    rw [hget]
    rcases attempt_cases host (s.mesh.routeCmd "add" target) ["file exists"]
      (.addRoute target) s with ⟨e, hreply, -, hrun⟩ | ⟨hsettled, hrun⟩
    · refine Or.inl ?_
      rw [EStateM.run_bind, hrun, hreply]
      exact ⟨rfl, fun s' hs' => by cases hs'⟩
    · rw [EStateM.run_bind, hrun]
      exact Or.inr ⟨_, rfl, rfl, fun net => h.table_add hsettled⟩

/-- Every route of the interface is one the mesh has on record. -/
def Covered (s : MeshSession) : Prop :=
  ∀ net ∈ routeTable s.issued, ∃ target ∈ s.mesh.routes, normalizeCIDR target = some net

/-- Every route on record is on the interface. -/
def Installed (s : MeshSession) : Prop :=
  ∀ target ∈ s.mesh.routes, ∀ net, normalizeCIDR target = some net → net ∈ routeTable s.issued

/-- No other route on record names the same network. -/
def Alone (target : String) (s : MeshSession) : Prop :=
  ∀ other ∈ s.mesh.routes, normalizeCIDR other = normalizeCIDR target → other = target

theorem Covered.quiet (h : Covered s) (hquiet : Quiet s s') : Covered s' := by
  rw [Covered, hquiet.table, hquiet.routes]
  exact h

theorem Covered.removed (h : Covered s) (hremoved : Removed target s s') : Covered s' := by
  intro net hnet
  obtain ⟨hbefore, hother⟩ := (hremoved.table net).mp hnet
  obtain ⟨tracked, htracked, hmasked⟩ := h net hbefore
  refine ⟨tracked, ?_, hmasked⟩
  rw [hremoved.routes, Finset.mem_erase]
  refine ⟨?_, htracked⟩
  rintro rfl
  exact hother hmasked

theorem Covered.added (h : Covered s) (hadded : Added target s s') : Covered s' := by
  intro net hnet
  rw [hadded.routes]
  rcases (hadded.table net).mp hnet with hbefore | hmasked
  · obtain ⟨tracked, htracked, hmasked⟩ := h net hbefore
    exact ⟨tracked, Finset.mem_insert_of_mem htracked, hmasked⟩
  · exact ⟨target, Finset.mem_insert_self _ _, hmasked⟩

theorem Installed.quiet (h : Installed s) (hquiet : Quiet s s') : Installed s' := by
  rw [Installed, hquiet.table, hquiet.routes]
  exact h

theorem Installed.removed (h : Installed s) (halone : Alone target s)
    (hremoved : Removed target s s') : Installed s' := by
  intro tracked htracked net hmasked
  rw [hremoved.routes, Finset.mem_erase] at htracked
  obtain ⟨hne, hbefore⟩ := htracked
  refine (hremoved.table net).mpr ⟨h tracked hbefore net hmasked, fun hsame => ?_⟩
  exact hne (halone tracked hbefore (hmasked.trans hsame.symm))

theorem Installed.added (h : Installed s) (hadded : Added target s s') : Installed s' := by
  intro tracked htracked net hmasked
  rw [hadded.routes, Finset.mem_insert] at htracked
  rw [hadded.table net]
  rcases htracked with rfl | hbefore
  · exact Or.inr hmasked
  · exact Or.inl (h tracked hbefore net hmasked)

theorem removeUnwanted_covered (h : TruthfulHost host) (m : Mesh) (want : List String)
    (target : String) : Maintains Covered (fun _ => True) (removeUnwanted host m want target) := by
  intro s hs
  refine ⟨?_, fun _ _ _ => trivial⟩
  rcases removeUnwanted_cases h m want target s with ⟨hquiet, -⟩ | ⟨-, s', hrun, hremoved⟩
  · exact hs.quiet hquiet
  · rw [hrun]
    exact hs.removed hremoved

theorem addRoute_covered (h : TruthfulHost host) (target : String) :
    Maintains Covered (fun _ => True) (addRoute host target) := by
  intro s hs
  refine ⟨?_, fun _ _ _ => trivial⟩
  rcases addRoute_cases h target s with ⟨hquiet, -⟩ | ⟨s', hrun, hadded⟩
  · exact hs.quiet hquiet
  · rw [hrun]
    exact hs.added hadded

theorem reconcileRoutesLocked_covered (h : TruthfulHost host) (desired : List String) :
    Maintains Covered (fun _ => True) (reconcileRoutesLocked host desired) := by
  have hstale : Maintains Covered (fun _ => True) (removeStale host desired) :=
    Maintains.get.bind fun s _ =>
      Maintains.forM fun target _ => removeUnwanted_covered h s.mesh desired target
  exact hstale.bind fun _ _ => Maintains.forM fun target _ => addRoute_covered h target

def Shrinks (s s' : MeshSession) : Prop := s'.mesh.routes ⊆ s.mesh.routes

instance : Std.Refl Shrinks := ⟨fun s => Finset.Subset.refl s.mesh.routes⟩

instance : IsTrans MeshSession Shrinks := ⟨fun _ _ _ h h' => h'.trans h⟩

theorem removeUnwanted_shrinks (h : TruthfulHost host) (m : Mesh) (want : List String)
    (target : String) : Frame Shrinks (removeUnwanted host m want target) := by
  intro s
  rcases removeUnwanted_cases h m want target s with ⟨hquiet, -⟩ | ⟨-, s', hrun, hremoved⟩
  · exact hquiet.routes.subset
  · rw [hrun, Shrinks, final_ok, hremoved.routes]
    exact Finset.erase_subset _ _

theorem removeStale_shrinks (h : TruthfulHost host) (want : List String) :
    Frame Shrinks (removeStale host want) :=
  Frame.get.bind fun s => Frame.forM fun target _ => removeUnwanted_shrinks h s.mesh want target

/-- Removing stale routes leaves the recorded ones installed. -/
theorem removeStale_installed (h : TruthfulHost host) {want : List String} (hs : Installed s)
    (halone : ∀ target ∈ s.mesh.routes, target ∉ want → Alone target s) :
    Installed (final ((removeStale host want).run s)) := by
  have hloop : Maintains (fun s₁ => Installed s₁ ∧ Shrinks s s₁) (fun _ => True)
      ((host.order s.issued s.mesh.routes).forM (removeUnwanted host s.mesh want)) := by
    refine Maintains.forM fun target htarget s₁ hs₁ => ⟨?_, fun _ _ _ => trivial⟩
    obtain ⟨hinstalled, hshrinks⟩ := hs₁
    refine ⟨?_, (removeUnwanted_shrinks h s.mesh want target s₁).trans hshrinks⟩
    rcases removeUnwanted_cases h s.mesh want target s₁ with
      ⟨hquiet, -⟩ | ⟨hunwanted, s', hrun, hremoved⟩
    · exact hinstalled.quiet hquiet
    · rw [hrun]
      refine hinstalled.removed (fun other hother => ?_) hremoved
      exact halone target (host.mem_order.mp htarget) hunwanted other (hshrinks hother)
  exact (hloop s ⟨hs, refl s⟩).1.1

/-- Once the stale routes are removed, only wanted ones are recorded. -/
theorem removeStale_wanted (h : TruthfulHost host) {want : List String}
    (hrun : (removeStale host want).run s = .ok () s') :
    ∀ target ∈ s'.mesh.routes, target ∈ want := by
  have hdone : ∀ target ∈ host.order s.issued s.mesh.routes,
      target ∈ want ∨ target ∉ s'.mesh.routes := by
    refine forall_of_run_forM (R := Shrinks)
      (Q := fun target s₁ => target ∈ want ∨ target ∉ s₁.mesh.routes) ?_
      (fun target _ => removeUnwanted_shrinks h s.mesh want target) ?_ hrun
    · exact fun target s₁ s₂ hQ hshrinks => hQ.imp_right fun hgone hmem => hgone (hshrinks hmem)
    · intro target _ s₁ s₂ hround
      rcases removeUnwanted_cases h s.mesh want target s₁ with
        ⟨-, hwant⟩ | ⟨-, s₃, hround', hremoved⟩
      · exact Or.inl (hwant s₂ hround)
      · cases hround.symm.trans hround'
        refine Or.inr ?_
        rw [hremoved.routes]
        exact Finset.notMem_erase _ _
  have hshrinks : Shrinks s (final ((removeStale host want).run s)) := removeStale_shrinks h want s
  rw [hrun] at hshrinks
  intro target htarget
  exact (hdone target (host.mem_order.mpr (hshrinks htarget))).resolve_right (not_not_intro htarget)

def Extends (s s' : MeshSession) : Prop := s.mesh.routes ⊆ s'.mesh.routes

instance : Std.Refl Extends := ⟨fun s => Finset.Subset.refl s.mesh.routes⟩

instance : IsTrans MeshSession Extends := ⟨fun _ _ _ h h' => h.trans h'⟩

theorem addRoute_extends (h : TruthfulHost host) (target : String) :
    Frame Extends (addRoute host target) := by
  intro s
  rcases addRoute_cases h target s with ⟨hquiet, -⟩ | ⟨s', hrun, hadded⟩
  · exact hquiet.routes.symm.subset
  · rw [hrun, Extends, final_ok, hadded.routes]
    exact Finset.subset_insert _ _

theorem addRoute_installed (h : TruthfulHost host) (target : String) :
    Maintains Installed (fun _ => True) (addRoute host target) := by
  intro s hs
  refine ⟨?_, fun _ _ _ => trivial⟩
  rcases addRoute_cases h target s with ⟨hquiet, -⟩ | ⟨s', hrun, hadded⟩
  · exact hs.quiet hquiet
  · rw [hrun]
    exact hs.added hadded

/-- The reconciliation keeps the routes installed if each of those it deletes is
alone. -/
theorem reconcileRoutesLocked_installed (h : TruthfulHost host) (hs : Installed s)
    (halone : ∀ target ∈ s.mesh.routes, target ∉ desired → Alone target s) :
    Installed (final ((reconcileRoutesLocked host desired).run s)) := by
  have hfirst := removeStale_installed h hs halone
  rcases run_bind_cases (removeStale host desired) (fun _ => addMissing host desired) s with
    ⟨e, s₁, hstop, hrun⟩ | ⟨⟨⟩, s₁, hdone, hrun⟩
  · rw [hstop] at hfirst
    rw [reconcileRoutesLocked, hrun]
    exact hfirst
  · rw [hdone] at hfirst
    rw [reconcileRoutesLocked, hrun]
    exact (Maintains.forM (fun target _ => addRoute_installed h target) s₁ hfirst).1

/-- The second loop tracks nothing but what is wanted, and when it ends normally all of
it. -/
theorem addMissing_wanted (h : TruthfulHost host) (desired : List String) :
    Maintains (fun s => ∀ target ∈ s.mesh.routes, target ∈ desired) (fun _ => True)
      (addMissing host desired) := by
  refine Maintains.forM fun target htarget s hs => ⟨?_, fun _ _ _ => trivial⟩
  rcases addRoute_cases h target s with ⟨hquiet, -⟩ | ⟨s', hrun, hadded⟩
  · rw [hquiet.routes]
    exact hs
  · rw [hrun, final_ok, hadded.routes]
    exact (Finset.forall_mem_insert _ _ _).mpr ⟨htarget, hs⟩

/-- After the missing routes are added, every desired one is recorded. -/
theorem addMissing_tracks (h : TruthfulHost host)
    (hrun : (addMissing host desired).run s = .ok () s') :
    ∀ target ∈ desired, target ∈ s'.mesh.routes := by
  refine forall_of_run_forM (R := Extends) (Q := fun target s₁ => target ∈ s₁.mesh.routes)
    (fun target s₁ s₂ hmem hextends => hextends hmem)
    (fun target _ => addRoute_extends h target) ?_ hrun
  intro target _ s₁ s₂ hround
  rcases addRoute_cases h target s₁ with ⟨-, hmem⟩ | ⟨s₃, hround', hadded⟩
  · exact hmem s₂ hround
  · cases hround.symm.trans hround'
    rw [hadded.routes]
    exact Finset.mem_insert_self _ _

theorem reconcileRoutesLocked_tracked (h : TruthfulHost host)
    (hrun : (reconcileRoutesLocked host desired).run s = .ok () s') (target : String) :
    target ∈ s'.mesh.routes ↔ target ∈ desired := by
  rcases run_bind_cases (removeStale host desired) (fun _ => addMissing host desired) s with
    ⟨e, s₁, -, hfails⟩ | ⟨⟨⟩, s₁, hdone, hlater⟩
  · cases hfails.symm.trans hrun
  · have hloop := hlater.symm.trans hrun
    have hwanted := (addMissing_wanted h desired s₁ (removeStale_wanted h hdone)).1
    rw [hloop] at hwanted
    exact ⟨hwanted target, addMissing_tracks h hloop target⟩

end Wireguard

end MacVz
