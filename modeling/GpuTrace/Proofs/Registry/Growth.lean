import GpuTrace.Proofs.Registry.Move
import GpuTrace.Proofs.Table

/-!
# Growth — where commands and pending calls come from

The commands of a registry were appended to it and its pending calls were queued; a change of
another kind brings neither. `Reaches.commands_from` and `Reaches.pending_from` say this of any
number of changes. They say nothing of what is still there, only that nothing is there that was
not brought.
-/

namespace GpuTrace.Registry

def commands (r : Registry) : List Command :=
  r.lists.values.flatMap (·.commands.toList)

variable {P : Change → Prop} {r r' : Registry} {change : Change} {c : Command} {call : Call}

/-- The registered commands are those that a reference can stand for. -/
theorem mem_commands : c ∈ r.commands ↔ ∃ ref, r.command ref = .ok c := by
  simp only [commands, List.mem_flatMap, Array.mem_toList_iff, Table.values, List.mem_map]
  constructor
  · rintro ⟨-, ⟨⟨list, info⟩, hinfo, rfl⟩, hc⟩
    obtain ⟨slot, hslot⟩ := Array.mem_iff_getElem?.mp hc
    exact ⟨⟨list, info.epoch, slot⟩,
      command_eq_ok_iff.mpr ⟨info, Table.mem_entries_iff.mp hinfo, rfl, hslot⟩⟩
  · rintro ⟨ref, href⟩
    obtain ⟨info, hinfo, -, hslot⟩ := command_eq_ok_iff.mp href
    exact ⟨info, ⟨_, Table.mem_entries_iff.mpr hinfo, rfl⟩, Array.mem_of_getElem? hslot⟩

/-- A command that is there after a change was there before, or it was appended. -/
theorem Move.commands_from (hm : Move r change r') (hc : c ∈ r'.commands) :
    (∃ c₀ ∈ r.commands, c₀.signal = c.signal) ∨
      ∃ list command, change = .append list command ∧ command.signal = c.signal := by
  obtain ⟨ref, href⟩ := mem_commands.mp hc
  have hold : ∀ {c₀}, r.command ref = .ok c₀ → c₀.signal = c.signal →
      ∃ c₀ ∈ r.commands, c₀.signal = c.signal :=
    fun h hsignal => ⟨_, mem_commands.mpr ⟨ref, h⟩, hsignal⟩
  cases hm with
  | spendEpoch => exact .inl (hold href rfl)
  | spendKernelId => exact .inl (hold href rfl)
  | take => exact .inl (hold href rfl)
  | caches => exact .inl (hold href rfl)
  | create absent => exact .inl (hold ((command_of_insert_blank absent rfl).mp href) rfl)
  | reset => exact .inl (hold ((command_of_emptied rfl).mp href).2 rfl)
  | remove => exact .inl (hold ((command_of_erase rfl).mp href).2 rfl)
  | clear => exact .inl (hold ((command_of_clear rfl).mp href) rfl)
  | append found =>
    rcases (command_of_append found rfl).mp href with hkept | ⟨-, rfl⟩
    · exact .inl (hold hkept rfl)
    · exact .inr ⟨_, _, rfl, rfl⟩
  | call found =>
    rcases (command_of_call found rfl).mp href with ⟨rfl, rfl⟩ | ⟨-, hkept⟩
    · exact .inl (hold found rfl)
    · exact .inl (hold hkept rfl)

/-- A call that is pending after a change was pending before, or it was queued. -/
theorem Move.pending_from (hm : Move r change r') (hcall : call ∈ r'.pending) :
    call ∈ r.pending ∨ ∃ call₀ callId, change = .call call₀ ∧ call = { call₀ with callId } := by
  cases hm with
  | call =>
    rcases List.mem_append.mp hcall with hold | hnew
    · exact .inl hold
    · exact .inr ⟨_, _, rfl, List.mem_singleton.mp hnew⟩
  | take => exact .inl (List.mem_of_mem_eraseIdx hcall)
  | _ => exact .inl hcall

theorem Reaches.commands_from (h : Reaches P r r') (hc : c ∈ r'.commands) :
    (∃ c₀ ∈ r.commands, c₀.signal = c.signal) ∨
      ∃ list command, P (.append list command) ∧ command.signal = c.signal := by
  have hall := h.induct (I := fun r' => ∀ c ∈ r'.commands,
    (∃ c₀ ∈ r.commands, c₀.signal = c.signal) ∨
      ∃ list command, P (.append list command) ∧ command.signal = c.signal)
    (fun c hc => .inl ⟨c, hc, rfl⟩) ?_
  · exact hall c hc
  · intro r₁ change r₂ hP hm hi c hc
    rcases hm.commands_from hc with ⟨c₀, hc₀, hsignal⟩ | ⟨list, command, rfl, hsignal⟩
    · rw [← hsignal]
      exact hi c₀ hc₀
    · exact .inr ⟨list, command, hP, hsignal⟩

theorem Reaches.pending_from (h : Reaches P r r') (hcall : call ∈ r'.pending) :
    call ∈ r.pending ∨ ∃ call₀ callId, P (.call call₀) ∧ call = { call₀ with callId } := by
  have hall := h.induct (I := fun r' => ∀ call ∈ r'.pending,
    call ∈ r.pending ∨ ∃ call₀ callId, P (.call call₀) ∧ call = { call₀ with callId })
    (fun call hcall => .inl hcall) ?_
  · exact hall call hcall
  · intro r₁ change r₂ hP hm hi call hcall
    rcases hm.pending_from hcall with hold | ⟨call₀, callId, rfl, rfl⟩
    · exact hi call hold
    · exact .inr ⟨call₀, callId, hP, rfl⟩

theorem Reaches.commands_old (h : Reaches (·.grows = false) r r') (hc : c ∈ r'.commands) :
    ∃ c₀ ∈ r.commands, c₀.signal = c.signal := by
  rcases h.commands_from hc with hold | ⟨list, command, hgrows, -⟩
  · exact hold
  · cases hgrows

theorem Reaches.pending_old (h : Reaches (·.grows = false) r r') (hcall : call ∈ r'.pending) :
    call ∈ r.pending := by
  rcases h.pending_from hcall with hold | ⟨call₀, callId, hgrows, -⟩
  · exact hold
  · cases hgrows

end GpuTrace.Registry
