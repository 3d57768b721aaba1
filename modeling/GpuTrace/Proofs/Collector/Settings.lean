import GpuTrace.Collector.Lifetime
import GpuTrace.Proofs.Collector.Lockstep
import GpuTrace.Proofs.Collector.Mirror
import GpuTrace.Proofs.Profile.Settings

/-!
# Settings — one collector under two settings

Two collectors at work are `Restyled` if they differ in nothing but their configuration and in what
the configuration makes of the profile. No hook reads the configuration, and only finishing a call
reads the settings of the profile. So every hook goes in lockstep: it answers the same and leaves
the same driver, journal and registry. The rules at the top are for the parts of a collector, the
other ones for the hooks.
-/

namespace GpuTrace

open Fallible

structure Collector.Restyled (named : Prop) (c c' : Collector) : Prop where
  tracer : c'.tracer = c.tracer
  notifies : c'.notifies = c.notifies
  enabled : c'.enabled = c.enabled
  registry : c'.registry = c.registry
  profile : c.profile.Restyled named c'.profile

namespace Tracing

structure Restyled (named : Prop) (t t' : Tracing) : Prop where
  driver : t'.driver = t.driver
  now : t'.now = t.now
  journal : t'.journal = t.journal
  collector : t.collector.Restyled named t'.collector

variable {named : Prop} {t t' : Tracing} {α : Type}

theorem Restyled.registry (h : Restyled named t t') : t'.registry = t.registry :=
  h.collector.registry

theorem Restyled.enabled (h : Restyled named t t') : t'.collector.enabled = t.collector.enabled :=
  h.collector.enabled

/-- Two programs that go in lockstep whatever the settings are. -/
abbrev Indifferent (named : Prop) (x y : Fallible Tracing α) : Prop :=
  Lockstep True (Restyled named) Eq x y

/-! ## Parts of a collector -/

theorem onRegistry_indifferent (step : Fallible Registry α) :
    Indifferent named (onRegistry step) (onRegistry step) := by
  refine onRegistry_lockstep fun t t' h => ?_
  rw [h.registry]
  cases step t.registry with
  | ok a r => exact ⟨rfl, h.driver, h.now, h.journal, { h.collector with registry := rfl }⟩
  | error e r => exact .inl trivial

theorem onDriver_indifferent (call : Driver → α × Driver) :
    Indifferent named (onDriver call) (onDriver call) := by
  intro t t' h
  unfold onDriver
  rw [h.driver]
  exact ⟨rfl, rfl, h.now, h.journal, h.collector⟩

/-- No setting changes which driver is called. -/
theorem restyled_sharesDriver : SharesDriver True (Restyled named) where
  onDriver call _ := onDriver_indifferent call
  warn w := lockstep_modify fun _ _ h =>
    { h with journal := congrArg (Journal.warn · w) h.journal }

theorem modifyRegistry_indifferent (f : Registry → Registry) :
    Indifferent named (onRegistry (modify f)) (onRegistry (modify f)) :=
  onRegistry_indifferent (modify f)

/-! ## Completing calls -/

/-- Collectors under two settings complete the same calls and give the same notices. -/
theorem restyled_mirrors : Mirrors True (Restyled named) Eq Eq where
  driver h := h.driver
  pending h := by
    rw [h.registry]
    exact List.forall₂_same.mpr fun _ _ => rfl
  command h := by
    rintro call _ rfl
    rw [h.registry]
  remove {t t'} h index := by
    have hregistry : (t'.withoutCall index).registry = (t.withoutCall index).registry :=
      congrArg (fun r : Registry => { r with pending := r.pending.eraseIdx index }) h.registry
    exact { h with collector := { h.collector with registry := hregistry } }
  finish := by
    rintro call _ rfl command timestamp
    refine onProfile_lockstep fun t t' h => ?_
    refine (Profile.finish_lockstep named call command timestamp t.profile t'.profile
      h.collector.profile).imp (fun _ _ hfinish => hfinish) fun _ _ hprofile => ?_
    exact { h with collector := { h.collector with profile := hprofile } }
  notify := by
    intro fs fs' hfs
    rw [List.forall₂_eq_eq_eq] at hfs
    subst hfs
    refine lockstep_modify fun t t' h => ?_
    have hpending : t'.collector.pendingCount = t.collector.pendingCount :=
      congrArg (fun r : Registry => r.pending.length) h.registry
    rw [h.collector.notifies, hpending, h.journal]
    cases t.collector.notifies with
    | false => exact h
    | true => exact { h with journal := rfl }

/-! ## Appending and executing -/

theorem Restyled.propsOf (h : Restyled named t t') (op : Operation) :
    t'.propsOf op = t.propsOf op := by
  unfold Tracing.propsOf
  rw [h.registry, h.driver]

theorem Restyled.anchorOn (h : Restyled named t t') (device : DeviceHandle) :
    t'.anchorOn device = t.anchorOn device := by
  unfold Tracing.anchorOn
  rw [h.now, h.driver]

theorem Restyled.appendAnchor (h : Restyled named t t') (list : CommandListHandle)
    (device : DeviceHandle) : t'.appendAnchor list device = t.appendAnchor list device := by
  unfold Tracing.appendAnchor
  rw [h.registry, h.anchorOn]

theorem enterAppend_indifferent (list : CommandListHandle) (op : Operation)
    (signal : Option EventHandle) :
    Indifferent named (enterAppend list op signal) (enterAppend list op signal) := by
  unfold enterAppend
  refine lockstep_bind lockstep_get fun t t' h => ?_
  rw [h.enabled, h.registry, h.propsOf op, h.now]
  cases t.collector.enabled with
  | false => exact lockstep_pure rfl
  | true =>
    refine lockstep_bind_eq (lockstep_lift _) fun device => ?_
    rw [h.appendAnchor list device]
    refine lockstep_bind_eq (lockstep_lift _) fun props => ?_
    refine lockstep_bind_eq (lockstep_lift _) fun anchor => ?_
    refine lockstep_bind_eq (lockstep_lift _) fun context => ?_
    refine lockstep_bind_eq (restyled_sharesDriver.signalFor _ _ _) fun made => ?_
    cases made with
    | none => exact lockstep_pure rfl
    | some signalEvent =>
      refine lockstep_bind lockstep_get fun t₁ t₁' h₁ => ?_
      rw [h₁.driver]
      refine lockstep_bind_eq (lockstep_lift _) fun frequency => ?_
      exact lockstep_bind_eq (lockstep_lift _) fun command => lockstep_pure rfl

theorem exitAppend_indifferent (append : InFlightAppend) (result : DriverResult) :
    Indifferent named (exitAppend append result) (exitAppend append result) := by
  unfold exitAppend
  cases result with
  | error e => exact restyled_sharesDriver.releaseCommand _
  | ok _ =>
    refine lockstep_bind_eq (onRegistry_indifferent _) fun ref => ?_
    cases append.anchor with
    | some anchor => exact onRegistry_indifferent _
    | none => exact lockstep_pure rfl

theorem enterExecute_indifferent (queue : QueueHandle) (lists : List CommandListHandle) :
    Indifferent named (enterExecute queue lists) (enterExecute queue lists) := by
  unfold enterExecute
  refine lockstep_bind lockstep_get fun t t' h => ?_
  have hanchors : t'.anchorOn = t.anchorOn := funext h.anchorOn
  rw [h.enabled, h.registry, hanchors]
  cases t.collector.enabled with
  | false => exact lockstep_pure rfl
  | true =>
    refine lockstep_bind_eq (lockstep_mapM fun list => ?_) fun anchors => lockstep_pure rfl
    refine lockstep_bind_eq (lockstep_lift _) fun device => ?_
    exact lockstep_bind_eq (lockstep_lift _) fun anchor => lockstep_pure rfl

theorem submitList_indifferent (queue : QueueHandle) (list : CommandListHandle)
    (anchor : SubmitAnchor) :
    Indifferent named (submitList queue list anchor) (submitList queue list anchor) := by
  unfold submitList
  refine lockstep_bind lockstep_get fun t t' h => ?_
  rw [h.registry]
  refine lockstep_bind_eq (lockstep_lift _) fun immediate => ?_
  cases immediate with
  | true => exact lockstep_pure rfl
  | false => exact lockstep_discard (onRegistry_indifferent _)

theorem exitExecute_indifferent (token : SubmitToken) (result : DriverResult) :
    Indifferent named (exitExecute token result) (exitExecute token result) := by
  unfold exitExecute
  cases result with
  | error e => exact lockstep_pure rfl
  | ok _ => exact lockstep_forM fun entry => submitList_indifferent _ _ _

/-! ## Other hooks -/

theorem drainAndFree_indifferent (take : Fallible Registry (Array Command)) :
    Indifferent named (drainAndFree take) (drainAndFree take) := by
  unfold drainAndFree
  refine lockstep_bind restyled_mirrors.sweep fun finished finished' hfinished => ?_
  refine lockstep_bind_eq (onRegistry_indifferent _) fun commands => ?_
  refine lockstep_bind_eq (restyled_mirrors.notify hfinished) fun _ => ?_
  exact restyled_sharesDriver.releaseCommands _

theorem setEnabled_indifferent (enabled : Bool) :
    Indifferent named (setEnabled enabled) (setEnabled enabled) := by
  unfold setEnabled
  refine lockstep_bind lockstep_get fun t t' h => ?_
  rw [h.collector.tracer]
  refine lockstep_bind_eq (onDriver_indifferent _) fun result => ?_
  cases result with
  | error e => exact lockstep_pure rfl
  | ok _ =>
    refine lockstep_bind_eq (lockstep_modify fun t t' h => ?_) fun _ => lockstep_pure rfl
    exact { h with collector := { h.collector with enabled := rfl } }

end Tracing

end GpuTrace
