import QueryGateway.Config.Source
import QueryGateway.Proofs.Endpoint.Built
import QueryGateway.Proofs.Json.Members
import QueryGateway.Proofs.Toml.Documents

/-!
# Loaded configurations

Whatever its format, a configuration that is loaded is a well-formed tree. So what holds of
well-formed trees holds of every endpoint of a server.
-/

namespace QueryGateway

/-- The tree of a document is well formed in both formats. -/
theorem DocumentFormat.wellFormed_of_parse {format : DocumentFormat} {text : String} {t : Tree}
    (h : format.parse text = .ok t) : t.WellFormed := by
  unfold DocumentFormat.parse at h
  split at h
  · split at h
    · next tree hread =>
      obtain rfl := Except.ok.inj h
      exact Toml.wellFormed_of_read? hread
    · cases h
  · split at h
    · cases h
    · next fields hread =>
      obtain rfl := Except.ok.inj h
      exact Json.wellFormed_of_read hread
    · cases h

/-- A configuration that is loaded is well formed. -/
theorem wellFormed_of_loadContents {file : String} {contents : Except LoadFailure Bytes}
    {v : View} (h : loadContents file contents = .ok v) : v.tree.WellFormed := by
  have hparsed {parse : Bytes → Except LoadFailure Tree}
      (hparse : ∀ bytes t, parse bytes = .ok t → t.WellFormed)
      (h : ((contents >>= parse).map View.mk).mapError ConfigFailure.load = .ok v) :
      v.tree.WellFormed := by
    obtain ⟨t, ht, rfl⟩ := exists_of_map_eq_ok (eq_ok_of_mapError h)
    obtain ⟨bytes, -, ht⟩ := exists_of_bind_eq_ok ht
    exact hparse bytes t ht
  unfold loadContents at h
  split at h
  · refine hparsed (fun bytes t ht => ?_) h
    split at ht
    · cases ht
    · exact DocumentFormat.wellFormed_of_parse ht
  · refine hparsed (fun bytes t ht => ?_) h
    split at ht
    · cases ht
    · exact DocumentFormat.wellFormed_of_parse ht
  · cases h

/-- The configuration that a variable names is well formed. -/
theorem wellFormed_of_loadVariable {d : Directory} {name : String} {value : Option String}
    {v : View} (h : loadVariable d name value = .ok v) : v.tree.WellFormed := by
  unfold loadVariable at h
  split at h
  · cases h
  · split at h
    · cases h
    · exact wellFormed_of_loadContents h

/-- The endpoints of a well-formed configuration are built from well-formed entries. -/
theorem Endpoint.exists_wellFormed_entry {layout : Statement.Layout} {v : View}
    {endpoints : List Endpoint} (hv : v.tree.WellFormed)
    (h : loadAll layout v = .ok endpoints) {e : Endpoint} (he : e ∈ endpoints) :
    ∃ entry, ofView layout entry = .ok e ∧ entry.tree.WellFormed := by
  obtain ⟨expr, entry, hget, hbuilt⟩ := exists_entry_of_loadAll h he
  exact ⟨entry, hbuilt, View.wellFormed_get hv hget⟩

end QueryGateway
