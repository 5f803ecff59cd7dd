import Mathlib.Data.List.Basic

/-!
# Staged files

The loop that `app/object_storage.py` and `app/storage.py` share: the chunks of a file are
written to a temporary file while they are counted and hashed. A chunk that takes the file
over the bound ends the loop, and the temporary file is removed. The hash function is a
parameter; hashing chunk by chunk gives the hash of the whole content.
-/

namespace MiniGrc

/-- The bytes of a file. -/
abbrev Bytes := List UInt8

namespace StagedFiles

/-- The loop over the chunks, from what has been written and counted so far. -/
def writeChunks (maxBytes : Nat) : Bytes × Nat → List Bytes → Except String (Bytes × Nat)
  | written, [] => .ok written
  | (content, byteSize), chunk :: chunks =>
    if maxBytes < byteSize + chunk.length then
      .error s!"File exceeds the maximum upload size of {maxBytes / (1024 * 1024)} MB."
    else writeChunks maxBytes (content ++ chunk, byteSize + chunk.length) chunks

/-- What the loop has written, and how it has counted. -/
theorem writeChunks_ok {maxBytes n n' : Nat} {content content' : Bytes} {chunks : List Bytes}
    (h : writeChunks maxBytes (content, n) chunks = .ok (content', n')) :
    content' = content ++ chunks.flatten ∧ n' = n + chunks.flatten.length := by
  induction chunks generalizing content n with
  | nil =>
    cases h
    exact ⟨(List.append_nil _).symm, rfl⟩
  | cons chunk chunks ih =>
    rw [writeChunks] at h
    split at h
    · cases h
    · obtain ⟨hcontent, hsize⟩ := ih h
      refine ⟨?_, ?_⟩
      · rw [hcontent, List.flatten_cons, List.append_assoc]
      · rw [hsize, List.flatten_cons, List.length_append, Nat.add_assoc]

/-- The loop ends well exactly when the chunks are not too long together. -/
theorem writeChunks_eq_ok {maxBytes n : Nat} {content : Bytes} {chunks : List Bytes}
    (h : n + chunks.flatten.length ≤ maxBytes) :
    writeChunks maxBytes (content, n) chunks =
      .ok (content ++ chunks.flatten, n + chunks.flatten.length) := by
  induction chunks generalizing content n with
  | nil => rw [writeChunks, List.flatten_nil, List.append_nil, List.length_nil, Nat.add_zero]
  | cons chunk chunks ih =>
    rw [List.flatten_cons, List.length_append, ← Nat.add_assoc] at h
    rw [writeChunks, if_neg (Nat.not_lt.2 (Nat.le_trans (Nat.le_add_right _ _) h)), ih h,
      List.flatten_cons, List.append_assoc, List.length_append, Nat.add_assoc]

end StagedFiles
end MiniGrc
