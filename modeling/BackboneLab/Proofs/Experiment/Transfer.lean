import BackboneLab.Experiment.Transfer
import BackboneLab.Proofs.Document.Truncation
import BackboneLab.Proofs.Experiment.Bundle

/-!
# Transfers that are cut off

A bundle travels without its length and without a checksum. That a transfer that was cut off is still
noticed rests on the document alone: a beginning of its bytes is the bytes of a beginning of its text, if
it is a text at all, and no beginning of a document is a document. The main statement is
`transfer_whole_or_refused`.
-/

namespace BackboneLab

/-! ## Bytes of texts -/

theorem textOfBytes?_eq_some {bytes : List UInt8} {t : String} :
    textOfBytes? bytes = some t ↔ bytes = t.toUTF8.data.toList := by
  rw [textOfBytes?, String.fromUTF8?]
  constructor
  · intro h
    split at h
    · cases h
      rfl
    · cases h
  · rintro rfl
    exact dif_pos t.isValidUTF8

/-- If the bytes of a text are a beginning of those of another one, then so are its characters. -/
theorem toList_of_bytes {s t : String} {more : List UInt8}
    (h : s.toUTF8.data.toList = t.toUTF8.data.toList ++ more) :
    ∃ cs, s.toList = t.toList ++ cs ∧ (cs = [] → more = []) := by
  have hbytes : t.toList.utf8Encode ++ ⟨more.toArray⟩ = s.toList.utf8Encode := by
    rw [String.utf8Encode_toList, String.utf8Encode_toList]
    refine ByteArray.ext (Array.ext' ?_)
    rw [ByteArray.toList_data_append]
    exact h.symm
  obtain ⟨cs, hcs⟩ := List.isPrefix_of_utf8Encode_append_eq_utf8Encode _ hbytes
  refine ⟨cs, hcs.symm, ?_⟩
  rintro rfl
  rw [List.append_nil] at hcs
  rw [String.toList_inj.1 hcs] at h
  simpa using h

namespace Bundle

variable {b : Bundle} {pieces : List (List UInt8)}

/-! ## Whole transfers -/

theorem ofDocument_eq_ok {document : String} :
    ofDocument document = .ok b ↔ ofJson? document = some b := by
  rw [ofDocument]
  constructor
  · intro h
    split at h
    next hread =>
      cases h
      exact hread
    next => cases h
  · intro h
    rw [h]

/-- The bundle that arrives whole is the one that was sent if and only if its numbers are read back. -/
theorem ofPieces_eq_ok_iff (h : pieces.flatten = b.bytes) :
    ofPieces pieces = .ok b ↔ ∀ x ∈ b.demandMatrix.bandwidths, ExactInJson x := by
  have htext : textOfBytes? pieces.flatten = some (toJson b) := textOfBytes?_eq_some.2 h
  rw [← kept_iff, Kept, ← ofJson?_toJson_eq, ofPieces, htext]
  exact ofDocument_eq_ok

/-! ## Transfers that are cut off -/

/-- No beginning of the document of a bundle is the document of a bundle. -/
theorem ofJson?_eq_none_of_append {text : String} {cs : List Char}
    (h : (toJson b).toList = text.toList ++ cs) (hcs : cs ≠ []) :
    (ofJson? text : Option Bundle) = none := by
  have hrecord : ∀ n, (encode b).inJson ≠ .number n := fun _ => nofun
  rw [toJson, String.toList_ofList, Json.compact_eq_written 0] at h
  rw [ofJson?, Json.read?_eq_none_of_append hrecord h hcs]
  rfl

/-- A transfer that was cut off is refused. -/
theorem ofPieces_of_append {more : List UInt8} (h : b.bytes = pieces.flatten ++ more)
    (hmore : more ≠ []) : ∃ f, ofPieces pieces = .error f := by
  rw [ofPieces]
  cases htext : textOfBytes? pieces.flatten with
  | none => exact ⟨_, rfl⟩
  | some text =>
    rw [textOfBytes?_eq_some.1 htext] at h
    obtain ⟨cs, hcs, hend⟩ := toList_of_bytes h
    have hnone := ofJson?_eq_none_of_append hcs fun hnil => hmore (hend hnil)
    refine ⟨.invalidBundle, ?_⟩
    show ofDocument text = .error .invalidBundle
    rw [ofDocument, hnone]

end Bundle

/-- In whatever pieces the bytes of a bundle arrive: if all of them do, then the bundle is received as it
was sent if and only if its bandwidths are finite numbers that are read back exactly; and if only a
beginning of them does, then nothing is received but a fault. No beginning of the document is a document. -/
theorem transfer_whole_or_refused (b : Bundle) (pieces : List (List UInt8)) :
    (pieces.flatten = b.bytes →
      (Bundle.ofPieces pieces = .ok b ↔ ∀ x ∈ b.demandMatrix.bandwidths, ExactInJson x)) ∧
    (pieces.flatten <+: b.bytes → pieces.flatten ≠ b.bytes →
      ∃ f, Bundle.ofPieces pieces = .error f) ∧
    ∀ text : String, text.toList <+: (toJson b).toList → text ≠ toJson b →
      (ofJson? text : Option Bundle) = none := by
  refine ⟨Bundle.ofPieces_eq_ok_iff, ?_, ?_⟩
  · rintro ⟨more, hmore⟩ hne
    refine Bundle.ofPieces_of_append hmore.symm ?_
    rintro rfl
    exact hne ((List.append_nil _).symm.trans hmore)
  · rintro text ⟨cs, hcs⟩ hne
    refine Bundle.ofJson?_eq_none_of_append hcs.symm ?_
    rintro rfl
    exact hne (String.toList_inj.1 ((List.append_nil _).symm.trans hcs))

/-- A bundle in two pieces, and the first of these pieces alone. -/
theorem transfer_whole_or_refused_two_pieces :
    let demand : Demand := ⟨⟨192, 168, 1, 1⟩, ⟨192, 168, 2, 1⟩, [0.1, 2.5]⟩
    let b : Bundle := ⟨.ofList [demand], false, 10, 0⟩
    Bundle.ofPieces [b.bytes.take 40, b.bytes.drop 40] = .ok b ∧
      (∃ f, Bundle.ofPieces [b.bytes.take 40] = .error f) ∧ (ofJson? "\x7b" : Option Bundle) = none := by
  intro demand b
  have hexact : ∀ x ∈ b.demandMatrix.bandwidths, ExactInJson x := by decide +kernel
  have hlong : 40 < b.bytes.length := by decide +kernel
  have hwhole : [b.bytes.take 40, b.bytes.drop 40].flatten = b.bytes := by simp
  have hcut : [b.bytes.take 40].flatten ≠ b.bytes := by
    intro h
    have := congrArg List.length h
    simp only [List.flatten_cons, List.flatten_nil, List.append_nil, List.length_take] at this
    omega
  refine ⟨((transfer_whole_or_refused b _).1 hwhole).2 hexact, ?_, ?_⟩
  · exact (transfer_whole_or_refused b _).2.1 (by simpa using List.take_prefix 40 b.bytes) hcut
  · exact (transfer_whole_or_refused b []).2.2 "\x7b" (by decide +kernel) (by decide +kernel)

/-- A bandwidth of 9.007269665019003 is written with all of its digits, but read as the next larger double,
so a bundle with this bandwidth arrives whole and yet as another bundle. -/
theorem transfer_inexact :
    let demand : Demand := ⟨⟨192, 168, 1, 1⟩, ⟨192, 168, 2, 1⟩, [9.007269665019003]⟩
    let b : Bundle := ⟨.ofList [demand], false, 10, 0⟩
    (∀ x ∈ b.demandMatrix.bandwidths, x.isFinite = true) ∧ Bundle.ofPieces [b.bytes] ≠ .ok b := by
  intro demand b
  have hfinite : ∀ x ∈ b.demandMatrix.bandwidths, x.isFinite = true := by decide +kernel
  have hinexact : ¬ ∀ x ∈ b.demandMatrix.bandwidths, ExactInJson x := by decide +kernel
  exact ⟨hfinite, fun h => hinexact ((Bundle.ofPieces_eq_ok_iff (by simp)).1 h)⟩

end BackboneLab
