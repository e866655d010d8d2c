import LogSieve.Proofs.Association
import LogSieve.Proofs.Json.Elements
import LogSieve.Record.OfLine

/-!
# The fields of a line have distinct names

Whatever a line holds, its record has one value per field name: the members of an
object and the pairs of a line arrive one by one, and what has no text as a field
is left out.  `nodup_keys_ofLine` says so of records.
-/

namespace LogSieve

variable {stack : Stack}

namespace Json

/-- The members of an object that was read have distinct keys. -/
theorem nodup_keys_of_readValue {depth : Nat} {text rest : Text} {members : List (Text × Value)}
    (h : readValue depth text = .ok (.object members, rest)) : (members.map Prod.fst).Nodup := by
  unfold readValue at h
  split at h
  · cases h
  · cases h
  · -- an array
    split at h
    · cases h
    · obtain ⟨pair, -, hpair⟩ := exists_of_bind_eq_ok h
      cases hpair
  · -- an object
    split at h
    · obtain ⟨rfl, -⟩ : members = [] ∧ _ := by simpa using h
      exact List.nodup_nil
    · obtain ⟨pair, -, hpair⟩ := exists_of_bind_eq_ok h
      cases hpair
      exact Association.nodup_keys_ofPairs _
  · exact absurd h (readScalar_ne_object _ _ _)

theorem nodup_keys_of_ofText {depth : Nat} {text : Text} {members : List (Text × Value)}
    (h : Value.ofText depth text = .ok (.object members)) : (members.map Prod.fst).Nodup := by
  obtain ⟨rest, hread, -⟩ := exists_rest_of_ofText h
  exact nodup_keys_of_readValue hread

end Json

/-- Members without a text are left out, and no key comes twice that did not before. -/
theorem Embedded.nodup_keys_fieldsOf {members : Association Text Json.Value}
    (h : (members.map Prod.fst).Nodup) : ((fieldsOf members).map Prod.fst).Nodup := by
  have hsublist : ((fieldsOf members).map Prod.fst).Sublist (members.map Prod.fst) := by
    induction members with
    | nil => exact List.Sublist.refl _
    | cons member rest ih =>
        obtain ⟨key, value⟩ := member
        have hrest := ih (List.nodup_cons.mp h).2
        cases htext : value.fieldText? with
        | none => simpa [fieldsOf, htext] using hrest.cons key
        | some text => simpa [fieldsOf, htext] using hrest.cons_cons key
  exact hsublist.nodup h

theorem Embedded.nodup_keys_content {line : Text} {content : Content}
    (h : content? stack line = .ok (some content)) : (content.fields.map Prod.fst).Nodup := by
  unfold content? at h
  split at h
  · cases h
  · split at h
    · cases h
    · cases h
    · rename_i members hobject
      obtain rfl := by simpa using h
      exact nodup_keys_fieldsOf (Json.nodup_keys_of_ofText hobject)
    · cases h

theorem Pairs.nodup_keys_ofLine (line : Text) : ((ofLine line).map Prod.fst).Nodup := by
  unfold ofLine
  split
  · exact Association.nodup_keys_ofPairs _
  · exact List.nodup_nil

theorem Content.nodup_keys_ofLine {raw : Text} {content : Content}
    (h : Content.ofLine stack raw = .ok content) : (content.fields.map Prod.fst).Nodup := by
  unfold Content.ofLine at h
  split at h
  · rename_i found hfound
    obtain rfl : found = content := by simpa using h
    exact Embedded.nodup_keys_content hfound
  · obtain rfl : Pairs.content raw = content := by simpa using h
    exact Pairs.nodup_keys_ofLine raw
  · obtain rfl : Pairs.content raw = content := by simpa using h
    exact Pairs.nodup_keys_ofLine raw
  · cases h
  · cases h

namespace Record

/-- What a record takes over from its line. -/
theorem ofLine_eq_ok {raw : Text} {number : Option Int} {level : Option Text} {record : Record}
    (h : ofLine stack raw number level = .ok record) :
    record.raw = raw ∧ Content.ofLine stack raw = .ok ⟨record.message.getD [], record.fields⟩ := by
  obtain ⟨content, hcontent, h⟩ := exists_of_bind_eq_ok h
  obtain ⟨instant, -, h⟩ := exists_of_bind_eq_ok h
  obtain rfl := Except.ok.inj h
  exact ⟨rfl, hcontent⟩

theorem inferredInstant?_of_ofLine {raw : Text} {number : Option Int} {level : Option Text}
    {record : Record} (h : ofLine stack raw number level = .ok record) :
    inferredInstant? raw record.fields = .ok record.timestamp := by
  obtain ⟨content, -, h⟩ := exists_of_bind_eq_ok h
  obtain ⟨instant, hinstant, h⟩ := exists_of_bind_eq_ok h
  obtain rfl := Except.ok.inj h
  exact hinstant

theorem nodup_keys_ofLine {raw : Text} {number : Option Int} {level : Option Text}
    {record : Record} (h : ofLine stack raw number level = .ok record) :
    (record.fields.map Prod.fst).Nodup :=
  Content.nodup_keys_ofLine (ofLine_eq_ok h).2

end Record

end LogSieve
