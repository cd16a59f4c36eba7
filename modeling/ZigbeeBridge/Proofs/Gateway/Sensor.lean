import ZigbeeBridge.Gateway.Sensor
import ZigbeeBridge.Proofs.Data.Shape

/-!
A sensor that is decoded has a reading of the type that its description names. It is not decoded
where that reading is missing; only a switch needs none.
-/
namespace ZigbeeBridge.Gateway

open Data

/-- The description of a sensor names the type of its reading. -/
def Sensor.IsTyped (sensor : Sensor) : Prop :=
  sensor.info.sensorType? = some sensor.reading.sensorType

section Decoding

variable {id : String} {v : Value} {info : SensorInfo} {type : SensorType} {sensor : Sensor}

theorem type_of_reading {reading : Reading} (h : Reading.decode type v = .ok reading) :
    reading.sensorType = type := by
  cases type with
  | switch =>
    cases h
    rfl
  | power | consumption | temperature =>
    obtain ⟨_, -, hrecord⟩ := bind_eq_ok h
    obtain ⟨_, -, hdone⟩ := bind_eq_ok hrecord
    cases hdone
    rfl

theorem undecodable_of_record {shape : Shape} {e : Error} (h : record shape v = .error e) :
    ∃ flaw, e = undecodable v flaw := by
  unfold record at h
  cases hread : shape.read v with
  | ok members =>
    rw [hread] at h
    cases h
  | error flaw =>
    rw [hread] at h
    cases h
    exact ⟨flaw, rfl⟩

/-- A reading that cannot be decoded is wrong in a record: the detail itself, or its state. -/
theorem undecodable_of_reading {e : Error} (h : Reading.decode type v = .error e) :
    ∃ part flaw, e = undecodable part flaw := by
  have hparts : ∀ {shape : Shape} {make : Entries Value → Reading},
      (do .ok (make (← record shape (← Reading.decode.state v)))) = Except.error e →
        ∃ part flaw, e = undecodable part flaw := by
    intro shape make hmade
    unfold Reading.decode.state at hmade
    cases hdetail : record Reading.stateShape v with
    | error flaw =>
      rw [hdetail] at hmade
      cases hmade
      exact ⟨v, undecodable_of_record hdetail⟩
    | ok detail =>
      cases hstate : record shape (detail.value "state") with
      | error flaw =>
        simp only [hdetail, hstate, bind, Except.bind] at hmade
        cases hmade
        exact ⟨_, undecodable_of_record hstate⟩
      | ok state =>
        simp only [hdetail, hstate, bind, Except.bind] at hmade
        cases hmade
  cases type with
  | switch => cases h
  | power | consumption | temperature => exact hparts h

/-- What a detail comes to, once its description is decoded. -/
theorem decode_of_info (hinfo : SensorInfo.decode id v = .ok info) :
    Sensor.decode id v =
      match info.sensorType? with
      | none => .ok none
      | some type => (Reading.decode type v).map fun reading => some ⟨info, reading⟩ := by
  unfold Sensor.decode
  simp only [hinfo, bind, Except.bind]
  cases info.sensorType? with
  | none => rfl
  | some type => cases Reading.decode type v <;> rfl

/-- The state is no part of the description of a sensor. -/
theorem infoDecode_put_state {members : Entries Value}
    (hinfo : SensorInfo.decode id (.object members) = .ok info) (state : Value) :
    SensorInfo.decode id (.object (members.put "state" state)) = .ok info := by
  obtain ⟨read, hrecord, hdone⟩ := bind_eq_ok hinfo
  have hread := mapError_eq_ok hrecord
  obtain rfl := Shape.eq_of_read hread
  cases hdone
  have hput : SensorInfo.shape.read (.object (read.put "state" state)) =
      (SensorInfo.shape.read (.object read)).map fun _ => read.put "state" state :=
    Shape.read_put rfl read state
  unfold SensorInfo.decode record
  rw [hput, hread]
  simp [SensorInfo.ofMembers, Entries.text, Entries.text?, Entries.get?_put, bind, Except.bind,
    Except.map]

theorem isTyped_of_decode (h : Sensor.decode id v = .ok (some sensor)) : sensor.IsTyped := by
  obtain ⟨info, hinfo, -⟩ := bind_eq_ok h
  rw [decode_of_info hinfo] at h
  split at h
  · cases h
  · rename_i type htype
    obtain ⟨reading, hreading, hdone⟩ := map_eq_ok h
    cases hdone
    rw [Sensor.IsTyped, type_of_reading hreading]
    exact htype

theorem isTyped_of_ofInfo? (h : Sensor.ofInfo? info = some sensor) : sensor.IsTyped := by
  unfold Sensor.ofInfo? at h
  split at h
  · rename_i htype
    cases h
    exact htype
  · cases h

end Decoding

end ZigbeeBridge.Gateway
