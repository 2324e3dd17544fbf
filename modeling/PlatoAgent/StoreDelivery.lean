import PlatoAgent.StoreRuns

/-!
# Messages are handed over once

Both message tables change by the same few steps: a message is inserted as
available, an admission reserves it, and the settlement of that run consumes it
or gives it back.  The steps are stated once for either table; the shape of the
delivery columns, the permanence of consumed messages and the replay of an
admission follow from them for every run of the store.
-/

namespace PlatoAgent

abbrev Admissions := UniqueTable ThreadRunAdmission String
  ThreadRunAdmission.keys

/-- Available, reserved by an admitted run of the addressed thread, or
consumed by the run that had reserved the message. -/
inductive DeliveryShape (admissions : Admissions) (profileId : ProfileId)
    (address : String) : Delivery → Prop where
  | available : DeliveryShape admissions profileId address
      { state := .available
        reservedByRunId := none
        reservedByTurnId := none
        consumedByRunId := none
        consumedByTurnId := none
        consumedAtMs := none }
  | reserved (admission : ThreadRunAdmission) (durable : admission ∈ admissions)
      (sameProfile : admission.profileId = profileId)
      (sameThread : admission.threadId = address) :
      DeliveryShape admissions profileId address
        { state := .reserved
          reservedByRunId := some admission.runId
          reservedByTurnId := some admission.threadTurnId
          consumedByRunId := none
          consumedByTurnId := none
          consumedAtMs := none }
  | consumed (runId turnId : String) (atMs : UInt64) :
      DeliveryShape admissions profileId address
        { state := .consumed
          reservedByRunId := some runId
          reservedByTurnId := some turnId
          consumedByRunId := some runId
          consumedByTurnId := some turnId
          consumedAtMs := some atMs }

namespace DeliveryShape

variable {admissions later : Admissions} {profileId : ProfileId}
  {address : String} {delivery : Delivery}

theorem mono (shape : DeliveryShape admissions profileId address delivery)
    (kept : ∀ admission ∈ admissions, admission ∈ later) :
    DeliveryShape later profileId address delivery := by
  cases shape with
  | available => exact .available
  | reserved admission durable sameProfile sameThread =>
      exact .reserved admission (kept _ durable) sameProfile sameThread
  | consumed runId turnId atMs => exact .consumed runId turnId atMs

theorem reserve (shape : DeliveryShape admissions profileId address delivery)
    (isAvailable : delivery.state = .available)
    {admission : ThreadRunAdmission} (durable : admission ∈ admissions)
    (sameProfile : admission.profileId = profileId)
    (sameThread : admission.threadId = address) :
    DeliveryShape admissions profileId address
      (delivery.reserve admission.runId admission.threadTurnId) := by
  cases shape with
  | available => exact .reserved admission durable sameProfile sameThread
  | reserved | consumed => cases isAvailable

theorem release (shape : DeliveryShape admissions profileId address delivery)
    (isReserved : delivery.state = .reserved) :
    DeliveryShape later profileId address delivery.release := by
  cases shape with
  | reserved => exact .available
  | available | consumed => cases isReserved

theorem consume (shape : DeliveryShape admissions profileId address delivery)
    (isReserved : delivery.state = .reserved) (atMs : UInt64) :
    DeliveryShape admissions profileId address (delivery.consume atMs) := by
  cases shape with
  | reserved admission => exact .consumed _ _ atMs
  | available | consumed => cases isReserved

end DeliveryShape

theorem Delivery.state_of_isReservedBy {delivery : Delivery}
    {runId turnId : String}
    (reserved : delivery.isReservedBy runId turnId = true) :
    delivery.state = .reserved := by
  simp only [Delivery.isReservedBy, Bool.and_eq_true, beq_iff_eq] at reserved
  exact reserved.1.1

section Columns

variable {Row Key : Type} {keys : Row → List Key}
  (columns : DeliveryColumns Row Key keys)

namespace DeliveryColumns

theorem mem_updateDeliveries {table : UniqueTable Row Key keys}
    {selected : Row → Bool} {change : Delivery → Delivery} {row : Row} :
    row ∈ columns.updateDeliveries table selected change ↔
      ∃ old ∈ table, row = if selected old then columns.deliver change old
        else old :=
  UniqueTable.mem_update _

/-- A row that the statement does not select stays. -/
theorem mem_updateDeliveries_of_not_selected
    {table : UniqueTable Row Key keys} {selected : Row → Bool}
    {change : Delivery → Delivery} {row : Row} (member : row ∈ table)
    (unselected : selected row = false) :
    row ∈ columns.updateDeliveries table selected change :=
  (columns.mem_updateDeliveries).mpr ⟨row, member, by simp [unselected]⟩

/-- Some row is the named message and held by the run of the admission. -/
def Holds (table : UniqueTable Row Key keys) (admission : ThreadRunAdmission)
    (messageId : String) : Prop :=
  ∃ row ∈ table, columns.isHeld messageId admission row = true

/-- What `reserve_delivery` does when it succeeds. -/
theorem reserveDelivery_ok {table after : UniqueTable Row Key keys}
    {messageId : String} {admission : ThreadRunAdmission}
    {newAdmission : Bool}
    (reserves : columns.reserveDelivery table messageId admission
      newAdmission = .ok after) :
    after = columns.updateDeliveries table
        (fun row => newAdmission &&
          columns.isReservable messageId admission row)
        (Delivery.reserve admission.runId admission.threadTurnId) ∧
      columns.Holds after admission messageId := by
  simp only [reserveDelivery] at reserves
  split at reserves
  next one =>
    cases reserves
    refine ⟨rfl, ?_⟩
    have positive : 0 < table.rows.countP fun row => newAdmission &&
        columns.isReservable messageId admission row := by omega
    obtain ⟨row, member, selected⟩ := List.countP_pos_iff.mp positive
    refine ⟨_, columns.mem_updateDeliveries.mpr ⟨row, member, rfl⟩, ?_⟩
    rw [if_pos selected]
    simp only [isReservable, Bool.and_eq_true] at selected
    simp only [isAddressed, Bool.and_eq_true] at selected
    simp [isHeld, isAddressed, selected, Delivery.isReservedBy,
      Delivery.reserve]
  next =>
  split at reserves
  next held =>
    cases reserves
    obtain ⟨row, member, isHeld⟩ := List.any_eq_true.mp held
    exact ⟨rfl, row, member, isHeld⟩
  next => cases reserves

end DeliveryColumns

/-- What one commit can do to the admissions and to one message table. -/
inductive DeliveryStep [DecidableEq Key] : StoreCommand → Admissions →
    UniqueTable Row Key keys → Admissions → UniqueTable Row Key keys →
    Prop where
  | same {command : StoreCommand} {admissions : Admissions}
      {table : UniqueTable Row Key keys} :
      DeliveryStep command admissions table admissions table
  | insert {command : StoreCommand} {admissions : Admissions}
      {table after : UniqueTable Row Key keys} (row : Row)
      (inserted : table.insert? row = some after)
      (isNew : columns.delivery row = .inserted) :
      DeliveryStep command admissions table admissions after
  | admission {admission : ThreadRunAdmission}
      {childReturnIds parentAnswerIds : List String}
      {admissions later : Admissions} {table after : UniqueTable Row Key keys}
      (newAdmission : Bool) (messageIds : List String)
      (kept : ∀ stored ∈ admissions, stored ∈ later)
      (durable : newAdmission = true → admission ∈ later)
      (reserves : columns.reserveAll admission newAdmission table messageIds =
        .ok after) :
      DeliveryStep
        (.admitThreadRunAndReserve admission childReturnIds parentAnswerIds)
        admissions table later after
  | settle {runId : String} {consumed : Bool} {atMs : UInt64}
      {admissions : Admissions} {table : UniqueTable Row Key keys}
      (admission : ThreadRunAdmission)
      (known : admissions.rows.find? (·.runId == runId) = some admission) :
      DeliveryStep (.settleThreadRunDeliveries runId consumed atMs) admissions
        table admissions (columns.settleReserved table runId
          admission.threadTurnId (ServerStore.settlement consumed atMs))
  | discard {runId : String} {admissions : Admissions}
      {table : UniqueTable Row Key keys} (admission : ThreadRunAdmission)
      (known : admissions.rows.find? (·.runId == runId) = some admission) :
      DeliveryStep (.discardThreadRunAdmission runId) admissions table
        (admissions.delete (·.runId == runId))
        (columns.settleReserved table runId admission.threadTurnId
          Delivery.release)

variable {columns}

/-- Every row of the table has one of the shapes. -/
def Shaped (columns : DeliveryColumns Row Key keys) (admissions : Admissions)
    (table : UniqueTable Row Key keys) : Prop :=
  ∀ row ∈ table, DeliveryShape admissions (columns.profileId row)
    (columns.address row) (columns.delivery row)

theorem Shaped.updateDeliveries {admissions later : Admissions}
    {table : UniqueTable Row Key keys} {selected : Row → Bool}
    {change : Delivery → Delivery} (shaped : Shaped columns admissions table)
    (unselected : ∀ row ∈ table, selected row = false →
      DeliveryShape later (columns.profileId row) (columns.address row)
        (columns.delivery row))
    (changed : ∀ row ∈ table, selected row = true →
      DeliveryShape admissions (columns.profileId row) (columns.address row)
        (columns.delivery row) →
      DeliveryShape later (columns.profileId row) (columns.address row)
        (change (columns.delivery row))) :
    Shaped columns later
      (columns.updateDeliveries table selected change) := by
  intro row member
  obtain ⟨old, oldMember, rfl⟩ := columns.mem_updateDeliveries.mp member
  cases isSelected : selected old with
  | false =>
      simp only [Bool.false_eq_true, if_false]
      exact unselected old oldMember isSelected
  | true =>
      simp only [if_true, DeliveryColumns.profileId_deliver,
        DeliveryColumns.address_deliver, DeliveryColumns.delivery_deliver]
      exact changed old oldMember isSelected (shaped old oldMember)

theorem Shaped.reserveDelivery {admissions : Admissions}
    {table after : UniqueTable Row Key keys} {messageId : String}
    {admission : ThreadRunAdmission} {newAdmission : Bool}
    (shaped : Shaped columns admissions table)
    (durable : newAdmission = true → admission ∈ admissions)
    (reserves : columns.reserveDelivery table messageId admission
      newAdmission = .ok after) : Shaped columns admissions after := by
  obtain ⟨rfl, _⟩ := columns.reserveDelivery_ok reserves
  apply shaped.updateDeliveries
  · intro row member _
    exact shaped row member
  · intro row _ selected shape
    simp only [DeliveryColumns.isReservable, DeliveryColumns.isAddressed,
      Bool.and_eq_true, beq_iff_eq] at selected
    obtain ⟨isNew, ⟨⟨_, sameProfile⟩, sameThread⟩, isAvailable⟩ := selected
    exact shape.reserve isAvailable (durable isNew) sameProfile.symm
      sameThread.symm

theorem Shaped.reserveAll {admissions : Admissions}
    {admission : ThreadRunAdmission} {newAdmission : Bool}
    (durable : newAdmission = true → admission ∈ admissions)
    {messageIds : List String} {table after : UniqueTable Row Key keys}
    (shaped : Shaped columns admissions table)
    (reserves : columns.reserveAll admission newAdmission table messageIds =
      .ok after) : Shaped columns admissions after := by
  induction messageIds generalizing table with
  | nil =>
      cases reserves
      exact shaped
  | cons messageId messageIds ih =>
      obtain ⟨middle, first, rest⟩ := except_bind_ok_iff.mp reserves
      exact ih (shaped.reserveDelivery durable first) rest

/-- Only the admission of a run reserves messages for it. -/
theorem eq_of_admission_run {admissions : Admissions} {runId : String}
    {admission other : ThreadRunAdmission}
    (known : admissions.rows.find? (·.runId == runId) = some admission)
    (durable : other ∈ admissions) (sameRun : other.runId = runId) :
    other = admission := by
  have isRun : admission.runId = runId := by
    simpa using List.find?_some known
  exact UniqueTable.eq_of_shared_key durable (List.mem_of_find?_eq_some known)
    runId (by simp [ThreadRunAdmission.keys, sameRun])
    (by simp [ThreadRunAdmission.keys, isRun])

theorem DeliveryStep.shaped [DecidableEq Key] {command : StoreCommand}
    {admissions later : Admissions} {table after : UniqueTable Row Key keys}
    (step : DeliveryStep columns command admissions table later after)
    (shaped : Shaped columns admissions table) :
    Shaped columns later after := by
  cases step with
  | same => exact shaped
  | insert row inserted isNew =>
      intro other member
      obtain member | rfl := (UniqueTable.mem_insert? inserted).mp member
      · exact shaped other member
      · rw [isNew]
        exact .available
  | admission newAdmission messageIds kept durable reserves =>
      apply Shaped.reserveAll durable _ reserves
      intro row member
      exact (shaped row member).mono kept
  | @settle runId consumed atMs _ _ admission known =>
      apply shaped.updateDeliveries
      · intro row member _
        exact shaped row member
      · intro row _ selected shape
        have isReserved := Delivery.state_of_isReservedBy selected
        cases consumed with
        | false => exact shape.release isReserved
        | true => exact shape.consume isReserved atMs
  | @discard runId _ _ admission known =>
      apply shaped.updateDeliveries
      · intro row member unselected
        -- A message that is still reserved belongs to another run.
        generalize isDelivery : columns.delivery row = delivery
        have shape := shaped row member
        rw [isDelivery] at shape unselected
        cases shape with
        | available => exact .available
        | reserved stored durable sameProfile sameThread =>
            refine .reserved stored ?_ sameProfile sameThread
            rw [UniqueTable.mem_delete]
            refine ⟨durable, ?_⟩
            by_contra sameRun
            obtain rfl := eq_of_admission_run known durable
              (by simpa using sameRun)
            have isRun : stored.runId = runId := by simpa using sameRun
            simp [Delivery.isReservedBy, isRun] at unselected
        | consumed runId turnId atMs => exact .consumed runId turnId atMs
      · intro row _ selected shape
        exact shape.release (Delivery.state_of_isReservedBy selected)

theorem DeliveryColumns.mem_reserveAll {admission : ThreadRunAdmission}
    {newAdmission : Bool} {messageIds : List String}
    {table after : UniqueTable Row Key keys}
    (reserves : columns.reserveAll admission newAdmission table messageIds =
      .ok after) {row : Row} (member : row ∈ table)
    (taken : (columns.delivery row).state ≠ .available) : row ∈ after := by
  induction messageIds generalizing table with
  | nil =>
      cases reserves
      exact member
  | cons messageId messageIds ih =>
      obtain ⟨middle, first, rest⟩ := except_bind_ok_iff.mp reserves
      obtain ⟨rfl, _⟩ := columns.reserveDelivery_ok first
      apply ih rest
      apply columns.mem_updateDeliveries_of_not_selected member
      simp [isReservable, taken]

theorem DeliveryStep.mem_of_consumed [DecidableEq Key]
    {command : StoreCommand} {admissions later : Admissions}
    {table after : UniqueTable Row Key keys}
    (step : DeliveryStep columns command admissions table later after)
    {row : Row} (member : row ∈ table)
    (consumed : (columns.delivery row).state = .consumed) : row ∈ after := by
  have unreserved (runId turnId : String) :
      (columns.delivery row).isReservedBy runId turnId = false := by
    simp [Delivery.isReservedBy, consumed]
  cases step with
  | same => exact member
  | insert other inserted isNew =>
      exact (UniqueTable.mem_insert? inserted).mpr (.inl member)
  | admission newAdmission messageIds kept durable reserves =>
      exact DeliveryColumns.mem_reserveAll reserves member (by simp [consumed])
  | settle admission known =>
      exact columns.mem_updateDeliveries_of_not_selected member
        (unreserved _ _)
  | discard admission known =>
      exact columns.mem_updateDeliveries_of_not_selected member
        (unreserved _ _)

theorem DeliveryColumns.isHeld_iff {messageId : String}
    {admission : ThreadRunAdmission} {row : Row} :
    columns.isHeld messageId admission row = true ↔
      columns.isAddressed messageId admission row = true ∧
      ((columns.delivery row).isReservedBy admission.runId
          admission.threadTurnId = true ∨
        (columns.delivery row).isConsumedBy admission.runId
          admission.threadTurnId = true) := by
  simp [isHeld]

/-- A change of the reserved messages of some turn keeps what the admission
holds, if the turn is another run's or the change consumes. -/
theorem DeliveryColumns.Holds.settleReserved
    {table : UniqueTable Row Key keys} {admission : ThreadRunAdmission}
    {messageId : String} (holds : columns.Holds table admission messageId)
    {runId turnId : String} {change : Delivery → Delivery}
    (keeps : runId = admission.runId →
      ∃ atMs, change = Delivery.consume atMs) :
    columns.Holds (columns.settleReserved table runId turnId change)
      admission messageId := by
  obtain ⟨row, member, held⟩ := holds
  cases selected : (columns.delivery row).isReservedBy runId turnId with
  | false =>
      exact ⟨row, columns.mem_updateDeliveries_of_not_selected member selected,
        held⟩
  | true =>
      refine ⟨_, columns.mem_updateDeliveries.mpr ⟨row, member, rfl⟩, ?_⟩
      rw [if_pos selected]
      rw [DeliveryColumns.isHeld_iff] at held ⊢
      simp only [Delivery.isReservedBy, Bool.and_eq_true, beq_iff_eq]
        at selected
      obtain ⟨⟨isReserved, byRun⟩, byTurn⟩ := selected
      obtain ⟨addressed, reserved | consumed⟩ := held
      · simp only [Delivery.isReservedBy, Bool.and_eq_true, beq_iff_eq]
          at reserved
        have sameRun : runId = admission.runId := by
          simpa [byRun] using reserved.1.2
        obtain ⟨atMs, rfl⟩ := keeps sameRun
        refine ⟨by simpa [isAddressed] using addressed, .inr ?_⟩
        simp [Delivery.isConsumedBy, Delivery.consume, reserved]
      · simp [Delivery.isConsumedBy, isReserved] at consumed

theorem DeliveryColumns.Holds.reserveAll {admission other : ThreadRunAdmission}
    {newAdmission : Bool} {messageIds : List String}
    {table after : UniqueTable Row Key keys} {messageId : String}
    (holds : columns.Holds table admission messageId)
    (reserves : columns.reserveAll other newAdmission table messageIds =
      .ok after) : columns.Holds after admission messageId := by
  obtain ⟨row, member, held⟩ := holds
  refine ⟨row, DeliveryColumns.mem_reserveAll reserves member ?_, held⟩
  obtain ⟨_, reserved | consumed⟩ := DeliveryColumns.isHeld_iff.mp held
  · simp [Delivery.state_of_isReservedBy reserved]
  · simp only [Delivery.isConsumedBy, Bool.and_eq_true, beq_iff_eq] at consumed
    simp [consumed]

/-- The commands that give the messages of a run back. -/
def StoreCommand.givesBack (runId : String) : StoreCommand → Bool
  | .settleThreadRunDeliveries settled consumed _ =>
      settled == runId && !consumed
  | .discardThreadRunAdmission discarded => discarded == runId
  | _ => false

theorem StoreCommand.ne_discard_of_givesBack {runId : String}
    {command : StoreCommand} (keeps : command.givesBack runId = false) :
    command ≠ .discardThreadRunAdmission runId := by
  rintro rfl
  simp [givesBack] at keeps

theorem DeliveryStep.holds [DecidableEq Key] {command : StoreCommand}
    {admissions later : Admissions} {table after : UniqueTable Row Key keys}
    (step : DeliveryStep columns command admissions table later after)
    {admission : ThreadRunAdmission} {messageId : String}
    (keeps : command.givesBack admission.runId = false)
    (holds : columns.Holds table admission messageId) :
    columns.Holds after admission messageId := by
  cases step with
  | same => exact holds
  | insert row inserted isNew =>
      obtain ⟨held, member, isHeld⟩ := holds
      exact ⟨held, (UniqueTable.mem_insert? inserted).mpr (.inl member),
        isHeld⟩
  | admission newAdmission messageIds kept durable reserves =>
      exact holds.reserveAll reserves
  | @settle runId consumed atMs _ _ stored known =>
      apply holds.settleReserved
      rintro rfl
      cases consumed with
      | false => simp [StoreCommand.givesBack] at keeps
      | true => exact ⟨atMs, rfl⟩
  | discard stored known =>
      apply holds.settleReserved
      rintro rfl
      simp [StoreCommand.givesBack] at keeps

/-- An admission stays in its table unless its run is discarded. -/
theorem DeliveryStep.mem_admissions [DecidableEq Key] {command : StoreCommand}
    {admissions later : Admissions} {table after : UniqueTable Row Key keys}
    (step : DeliveryStep columns command admissions table later after)
    {stored : ThreadRunAdmission} (member : stored ∈ admissions)
    (keeps : command ≠ .discardThreadRunAdmission stored.runId) :
    stored ∈ later := by
  cases step with
  | same => exact member
  | insert => exact member
  | admission newAdmission messageIds kept durable reserves =>
      exact kept stored member
  | settle => exact member
  | @discard runId _ _ admission known =>
      rw [UniqueTable.mem_delete]
      refine ⟨member, ?_⟩
      rw [beq_eq_false_iff_ne]
      rintro rfl
      exact keeps rfl

/-- After the loop the admission holds every named message. -/
theorem DeliveryColumns.holds_of_reserveAll {admission : ThreadRunAdmission}
    {newAdmission : Bool} {messageIds : List String}
    {table after : UniqueTable Row Key keys}
    (reserves : columns.reserveAll admission newAdmission table messageIds =
      .ok after) :
    ∀ messageId ∈ messageIds, columns.Holds after admission messageId := by
  induction messageIds generalizing table with
  | nil => simp
  | cons messageId messageIds ih =>
      obtain ⟨middle, first, rest⟩ := except_bind_ok_iff.mp reserves
      intro named member
      obtain rfl | member := List.mem_cons.mp member
      · exact (columns.reserveDelivery_ok first).2.reserveAll rest
      · exact ih rest named member

/-- An old admission that holds every named message replays. -/
theorem DeliveryColumns.reserveAll_of_holds {admission : ThreadRunAdmission}
    {messageIds : List String} {table : UniqueTable Row Key keys}
    (holds : ∀ messageId ∈ messageIds,
      columns.Holds table admission messageId) :
    columns.reserveAll admission false table messageIds = .ok table := by
  have unchanged : columns.updateDeliveries table (fun _ => false)
      (Delivery.reserve admission.runId admission.threadTurnId) = table := by
    cases table
    simp [updateDeliveries, UniqueTable.update]
  induction messageIds with
  | nil => rfl
  | cons messageId messageIds ih =>
      obtain ⟨row, member, held⟩ := holds messageId List.mem_cons_self
      have first : columns.reserveDelivery table messageId admission false =
          .ok table := by
        have found : table.rows.any (columns.isHeld messageId admission) :=
          List.any_eq_true.mpr ⟨row, member, held⟩
        simp [reserveDelivery, unchanged, found]
      rw [reserveAll, first, except_ok_bind]
      exact ih fun named namedMember =>
        holds named (List.mem_cons_of_mem _ namedMember)

end Columns

namespace ServerStore

/-- Every commit is one step of either message table. -/
theorem commit_deliverySteps {env : StoreEnv} {store after : ServerStore}
    {command : StoreCommand}
    (committed : command.commit env store = .ok after) :
    DeliveryStep childReturnColumns command store.threadRunAdmissions
        store.childReturns after.threadRunAdmissions after.childReturns ∧
      DeliveryStep parentAnswerColumns command store.threadRunAdmissions
        store.parentAnswers after.threadRunAdmissions after.parentAnswers := by
  cases command with
  | persistChildReturn draft =>
      obtain ⟨⟨_, _⟩, persists, rfl⟩ := except_map_ok_iff.mp committed
      obtain ⟨rfl, _⟩ | ⟨_, _, _, inserts, _, rfl⟩ :=
        persistChildReturn_ok persists
      · exact ⟨.same, .same⟩
      · exact ⟨.insert _ inserts.inserted rfl, .same⟩
  | persistParentAnswer draft =>
      obtain ⟨⟨_, _⟩, persists, rfl⟩ := except_map_ok_iff.mp committed
      obtain ⟨rfl, _⟩ | ⟨_, _, _, inserts, _, rfl⟩ :=
        persistParentAnswer_ok persists
      · exact ⟨.same, .same⟩
      · exact ⟨.same, .insert _ inserts.inserted rfl⟩
  | admitThreadRunAndReserve admission childReturnIds parentAnswerIds =>
      obtain ⟨⟨_, _⟩, admits, rfl⟩ := except_map_ok_iff.mp committed
      obtain ⟨newAdmission, admissions, _, _, made, rfl⟩ :=
        admitThreadRunAndReserve_ok_iff.mp admits
      have kept : ∀ stored ∈ store.threadRunAdmissions,
          stored ∈ admissions := by
        intro stored member
        obtain ⟨_, inserted⟩ | ⟨_, _, rfl⟩ := made.admissions_eq
        · exact (UniqueTable.mem_insert? inserted).mpr (.inl member)
        · exact member
      have durable : newAdmission = true → admission ∈ admissions := by
        rintro rfl
        obtain ⟨_, inserted⟩ | ⟨isOld, _⟩ := made.admissions_eq
        · exact (UniqueTable.mem_insert? inserted).mpr (.inr rfl)
        · cases isOld
      exact ⟨.admission newAdmission childReturnIds kept durable made.returns,
        .admission newAdmission parentAnswerIds kept durable made.answers⟩
  | settleThreadRunDeliveries runId consumed atMs =>
      obtain ⟨⟨_, _⟩, settles, rfl⟩ := except_map_ok_iff.mp committed
      obtain ⟨_, rfl⟩ | ⟨admission, known, rfl⟩ :=
        settleThreadRunDeliveries_ok settles
      · exact ⟨.same, .same⟩
      · exact ⟨.settle admission known, .settle admission known⟩
  | discardThreadRunAdmission runId =>
      obtain ⟨⟨_, _⟩, discards, rfl⟩ := except_map_ok_iff.mp committed
      obtain ⟨_, rfl⟩ | ⟨admission, known, rfl⟩ :=
        discardThreadRunAdmission_ok discards
      · exact ⟨.same, .same⟩
      · exact ⟨.discard admission known, .discard admission known⟩
  | persistThreadSpawn | claimThreadBranches | releaseThreadClaims
  | persistThreadStop | reserveProfileHome
  | decideProfileHomeWithoutAuthority | persistProfileHome =>
      obtain ⟨returns, answers, admissions⟩ :=
        commit_sameMessages rfl committed
      rw [returns, answers, admissions]
      exact ⟨.same, .same⟩

/-- Both message tables of the store have shaped rows. -/
structure Delivered (store : ServerStore) : Prop where
  returns : Shaped childReturnColumns store.threadRunAdmissions
    store.childReturns
  answers : Shaped parentAnswerColumns store.threadRunAdmissions
    store.parentAnswers

theorem delivered_afterCalls {env : StoreEnv} {start : ServerStore}
    (delivered : start.Delivered) (calls : List StoreCall) :
    (start.afterCalls env calls).Delivered := by
  apply afterCalls_invariant calls _ delivered
  intro call _ store after held committed
  obtain ⟨returns, answers⟩ := commit_deliverySteps committed
  exact ⟨returns.shaped held.returns, answers.shaped held.answers⟩

theorem delivered_of_no_messages {start : ServerStore}
    (noReturns : start.childReturns = .empty)
    (noAnswers : start.parentAnswers = .empty) : start.Delivered where
  returns row member := by simp [noReturns] at member
  answers row member := by simp [noAnswers] at member

theorem consumedReturn_mem_afterCalls (env : StoreEnv) {store : ServerStore}
    {row : ChildReturnRecord} (member : row ∈ store.childReturns)
    (consumed : row.delivery.state = .consumed) (calls : List StoreCall) :
    row ∈ (store.afterCalls env calls).childReturns := by
  have kept := fun call (_ : call ∈ calls) (before after : ServerStore)
      (held : row ∈ before.childReturns)
      (committed : call.command.commit env before = .ok after) =>
    (commit_deliverySteps committed).1.mem_of_consumed held consumed
  exact afterCalls_invariant calls kept member

theorem consumedAnswer_mem_afterCalls (env : StoreEnv) {store : ServerStore}
    {row : ParentAnswerRecord} (member : row ∈ store.parentAnswers)
    (consumed : row.delivery.state = .consumed) (calls : List StoreCall) :
    row ∈ (store.afterCalls env calls).parentAnswers := by
  have kept := fun call (_ : call ∈ calls) (before after : ServerStore)
      (held : row ∈ before.parentAnswers)
      (committed : call.command.commit env before = .ok after) =>
    (commit_deliverySteps committed).2.mem_of_consumed held consumed
  exact afterCalls_invariant calls kept member

theorem authorityMatches_of_grow {before after : ServerStore}
    (grows : ThreadsGrow before after) {admission : ThreadRunAdmission}
    (agrees : before.authorityMatches admission = true) :
    after.authorityMatches admission = true := by
  simp only [authorityMatches, hasRevision, Bool.and_eq_true,
    List.any_eq_true] at agrees ⊢
  obtain ⟨⟨⟨authority, durable, sameAuthority⟩, profile, known, reached⟩,
    revision⟩ := agrees
  obtain ⟨later, laterKnown, sameId, _, sameRevision⟩ :=
    grows.profiles profile known
  refine ⟨⟨⟨authority, grows.authorities _ durable, sameAuthority⟩, later,
    laterKnown, ?_⟩, ?_⟩
  · rw [sameId, sameRevision]
    exact reached
  · rw [grows.revisions]
    exact revision

theorem threadRunAdmissionById_eq_some_iff {store : ServerStore}
    {runId : String} {admission : ThreadRunAdmission} :
    store.threadRunAdmissionById runId = some admission ↔
      admission ∈ store.threadRunAdmissions ∧ admission.runId = runId := by
  unfold threadRunAdmissionById
  rw [UniqueTable.find?_eq_some_iff runId]
  · simp
  · intro row selected
    rw [ThreadRunAdmission.keys, beq_iff_eq.mp selected]
    exact List.mem_singleton_self runId

theorem runId_of_sameAdmission {stored admission : ThreadRunAdmission}
    (agrees : sameAdmission stored admission = true) :
    stored.runId = admission.runId := by
  simp only [sameAdmission, Bool.and_eq_true, beq_iff_eq] at agrees
  exact agrees.1.1.1.1.1

/-- The store holds the admission and every message it names. -/
structure HoldsAdmission (store : ServerStore) (admission : ThreadRunAdmission)
    (childReturnIds parentAnswerIds : List String) : Prop where
  storedRevision : admission.profileRevision.toNat < 2 ^ 63
  positive : 0 < admission.profileRevision
  authority : store.authorityMatches admission = true
  stored : ∃ stored ∈ store.threadRunAdmissions,
    sameAdmission stored admission = true
  returns : ∀ messageId ∈ childReturnIds,
    childReturnColumns.Holds store.childReturns admission messageId
  answers : ∀ messageId ∈ parentAnswerIds,
    parentAnswerColumns.Holds store.parentAnswers admission messageId

/-- A successful admission holds its messages. -/
theorem holdsAdmission_of_admitted {store after : ServerStore}
    {admission : ThreadRunAdmission}
    {childReturnIds parentAnswerIds : List String} {result : Unit}
    (admits : store.admitThreadRunAndReserve admission childReturnIds
      parentAnswerIds = .ok (result, after)) :
    after.HoldsAdmission admission childReturnIds parentAnswerIds := by
  obtain ⟨newAdmission, admissions, childReturns, parentAnswers, made, rfl⟩ :=
    admitThreadRunAndReserve_ok_iff.mp admits
  obtain ⟨stored, found, agrees⟩ := (Option.any_eq_true _ _).mp made.stored
  exact
    { storedRevision := made.storedRevision
      positive := made.positive
      authority := made.authority
      stored := ⟨stored, List.mem_of_find?_eq_some found, agrees⟩
      returns := DeliveryColumns.holds_of_reserveAll made.returns
      answers := DeliveryColumns.holds_of_reserveAll made.answers }

theorem HoldsAdmission.commit {env : StoreEnv} {store after : ServerStore}
    {admission : ThreadRunAdmission}
    {childReturnIds parentAnswerIds : List String}
    (holds : store.HoldsAdmission admission childReturnIds parentAnswerIds)
    {command : StoreCommand}
    (keeps : command.givesBack admission.runId = false)
    (committed : command.commit env store = .ok after) :
    after.HoldsAdmission admission childReturnIds parentAnswerIds := by
  obtain ⟨returns, answers⟩ := commit_deliverySteps committed
  obtain ⟨stored, member, agrees⟩ := holds.stored
  have sameRun := runId_of_sameAdmission agrees
  exact
    { storedRevision := holds.storedRevision
      positive := holds.positive
      authority := authorityMatches_of_grow (commit_threadsGrow committed)
        holds.authority
      stored := ⟨stored, returns.mem_admissions member
        (sameRun ▸ StoreCommand.ne_discard_of_givesBack keeps), agrees⟩
      returns := fun messageId named =>
        returns.holds keeps (holds.returns messageId named)
      answers := fun messageId named =>
        answers.holds keeps (holds.answers messageId named) }

theorem HoldsAdmission.afterCalls {env : StoreEnv} {store : ServerStore}
    {admission : ThreadRunAdmission}
    {childReturnIds parentAnswerIds : List String}
    (holds : store.HoldsAdmission admission childReturnIds parentAnswerIds)
    {calls : List StoreCall}
    (keeps : ∀ call ∈ calls, call.command.givesBack admission.runId = false) :
    (store.afterCalls env calls).HoldsAdmission admission childReturnIds
      parentAnswerIds := by
  have kept : ∀ call ∈ calls, ∀ before after : ServerStore,
      before.HoldsAdmission admission childReturnIds parentAnswerIds →
      call.command.commit env before = .ok after →
      after.HoldsAdmission admission childReturnIds parentAnswerIds := by
    intro call member before after held committed
    exact held.commit (keeps call member) committed
  exact afterCalls_invariant calls kept holds

/-- An admission that is held replays at any later time. -/
theorem HoldsAdmission.replays {store : ServerStore}
    {admission : ThreadRunAdmission}
    {childReturnIds parentAnswerIds : List String}
    (holds : store.HoldsAdmission admission childReturnIds parentAnswerIds)
    {createdAtMs : UInt64} (storedTime : createdAtMs.toNat < 2 ^ 63) :
    store.admitThreadRunAndReserve
        { admission with createdAtMs := createdAtMs } childReturnIds
        parentAnswerIds = .ok ((), store) := by
  obtain ⟨stored, member, agrees⟩ := holds.stored
  have sameRun := runId_of_sameAdmission agrees
  have known := threadRunAdmissionById_eq_some_iff.mpr ⟨member, sameRun⟩
  refine admitThreadRunAndReserve_ok_iff.mpr ⟨false,
    store.threadRunAdmissions, store.childReturns, store.parentAnswers, ?_,
    rfl⟩
  exact
    { storedRevision := holds.storedRevision
      storedTime := storedTime
      positive := holds.positive
      authority := holds.authority
      admissions_eq := .inr ⟨rfl, UniqueTable.insert?_eq_none member
        admission.runId (by simp [ThreadRunAdmission.keys, sameRun])
        (by simp [ThreadRunAdmission.keys]), rfl⟩
      stored := by
        rw [show store.threadRunAdmissions.rows.find?
          (·.runId == admission.runId) = some stored from known]
        exact agrees
      returns := DeliveryColumns.reserveAll_of_holds holds.returns
      answers := DeliveryColumns.reserveAll_of_holds holds.answers }

/-- In every run from a store without messages, each message is available,
reserved by an admitted run of the thread it is addressed to, or consumed by
the run that had reserved it; a consumed message never changes; an admission
takes all its messages or nothing; and while its run is neither settled as
unconsumed nor discarded, repeating it succeeds and changes nothing. -/
theorem messages_delivered_once (env : StoreEnv) (start : ServerStore)
    (noReturns : start.childReturns = .empty)
    (noAnswers : start.parentAnswers = .empty) (calls : List StoreCall) :
    let store := start.afterCalls env calls
    (∀ row ∈ store.childReturns, DeliveryShape store.threadRunAdmissions
      row.profileId row.parentThreadId row.delivery) ∧
    (∀ row ∈ store.parentAnswers, DeliveryShape store.threadRunAdmissions
      row.profileId row.childThreadId row.delivery) ∧
    (∀ row ∈ store.childReturns, row.delivery.state = .consumed →
      ∀ later, row ∈ (store.afterCalls env later).childReturns ∧
        ∀ other ∈ (store.afterCalls env later).childReturns,
          other.messageId = row.messageId → other = row) ∧
    (∀ row ∈ store.parentAnswers, row.delivery.state = .consumed →
      ∀ later, row ∈ (store.afterCalls env later).parentAnswers ∧
        ∀ other ∈ (store.afterCalls env later).parentAnswers,
          other.messageId = row.messageId → other = row) ∧
    ∀ admission childReturnIds parentAnswerIds,
      (∀ connection error, store.admitThreadRunAndReserve admission
          childReturnIds parentAnswerIds = .error error →
        store.afterCall env ⟨connection, .admitThreadRunAndReserve admission
          childReturnIds parentAnswerIds⟩ = store) ∧
      ∀ admitted, store.admitThreadRunAndReserve admission childReturnIds
          parentAnswerIds = .ok ((), admitted) →
        (∃ stored ∈ admitted.threadRunAdmissions,
          sameAdmission stored admission = true) ∧
        (∀ messageId ∈ childReturnIds, childReturnColumns.Holds
          admitted.childReturns admission messageId) ∧
        (∀ messageId ∈ parentAnswerIds, parentAnswerColumns.Holds
          admitted.parentAnswers admission messageId) ∧
        ∀ later createdAtMs, createdAtMs.toNat < 2 ^ 63 →
          (∀ call ∈ later, call.command.givesBack admission.runId = false) →
          (admitted.afterCalls env later).admitThreadRunAndReserve
              { admission with createdAtMs := createdAtMs } childReturnIds
              parentAnswerIds =
            .ok ((), admitted.afterCalls env later) := by
  intro store
  have delivered : store.Delivered := delivered_afterCalls
    (delivered_of_no_messages noReturns noAnswers) calls
  refine ⟨delivered.returns, delivered.answers, ?_, ?_, ?_⟩
  · intro row member consumed later
    have kept := consumedReturn_mem_afterCalls env member consumed later
    refine ⟨kept, fun other otherMember sameId => ?_⟩
    exact UniqueTable.eq_of_shared_key otherMember kept
      (.messageId row.messageId) (by simp [ChildReturnRecord.keys, sameId])
      (by simp [ChildReturnRecord.keys])
  · intro row member consumed later
    have kept := consumedAnswer_mem_afterCalls env member consumed later
    refine ⟨kept, fun other otherMember sameId => ?_⟩
    exact UniqueTable.eq_of_shared_key otherMember kept
      (.messageId row.messageId) (by simp [ParentAnswerRecord.keys, sameId])
      (by simp [ParentAnswerRecord.keys])
  · intro admission childReturnIds parentAnswerIds
    constructor
    · intro connection error failed
      simp [afterCall, StoreCommand.commit, failed, Except.map]
    · intro admitted admits
      have holds := holdsAdmission_of_admitted admits
      refine ⟨holds.stored, holds.returns, holds.answers, ?_⟩
      intro later createdAtMs storedTime keeps
      exact (holds.afterCalls keeps).replays storedTime

/-- The child of the small store reports and a run of its home reads it. -/
def sampleReport : List StoreCall :=
  [⟨0, .persistChildReturn (sampleReturn "message")⟩,
    ⟨1, .admitThreadRunAndReserve (sampleAdmission "run") ["message"] []⟩]

theorem messages_delivered_once_sample :
    sampleStore.childReturns = .empty ∧ sampleStore.parentAnswers = .empty ∧
    ∀ row ∈ (sampleStore.afterCalls sampleStoreEnv sampleReport).childReturns,
      DeliveryShape (sampleStore.afterCalls sampleStoreEnv
          sampleReport).threadRunAdmissions
        row.profileId row.parentThreadId row.delivery :=
  ⟨rfl, rfl, (messages_delivered_once sampleStoreEnv sampleStore rfl rfl
    sampleReport).1⟩

/-- Settled as consumed and then discarded, the run is admitted anew. -/
theorem readmission_after_discard_inserts :
    let admits (store : ServerStore) := store.admitThreadRunAndReserve
      (sampleAdmission "run") ["message"] []
    let reported := sampleStore.afterCalls sampleStoreEnv
      [⟨0, .persistChildReturn (sampleReturn "message")⟩]
    let discarded := (sampleStore.afterCalls sampleStoreEnv
      sampleReport).afterCalls sampleStoreEnv
        [⟨1, .settleThreadRunDeliveries "run" true 4⟩,
          ⟨1, .discardThreadRunAdmission "run"⟩]
    admits reported = .ok ((),
      sampleStore.afterCalls sampleStoreEnv sampleReport) ∧
    admits discarded ≠ .ok ((), discarded) := by
  refine ⟨rfl, fun unchanged => ?_⟩
  have rows := congrArg (Except.map (·.2.threadRunAdmissions.rows)) unchanged
  cases rows

end ServerStore

end PlatoAgent
