import DocAccess.Authorization
import DocAccess.Proofs.Slices

/-!
# How a request begins

A request for some documents, under a positive cap and a deadline that a double can hold, starts
with one event and then opens a session. A positive cap is accepted unless it is at the limit.
-/
namespace DocAccess

/-- A positive cap below the limit is a cap. -/
theorem BatchCap.ofInt?_of_lt {n : Int} (hpos : 1 ≤ n) (hlt : n < BatchCap.limit) :
    BatchCap.ofInt? n = .ok ⟨n.toNat, by omega⟩ := by
  have h : 0 < n.toNat := by omega
  have hl : n.toNat < BatchCap.limit := by omega
  simp [BatchCap.ofInt?, h, hl]

/-- A cap at the limit or above it is refused. -/
theorem BatchCap.ofInt?_of_le {n : Int} (h : (BatchCap.limit : Int) ≤ n) :
    BatchCap.ofInt? n = .error .tooLarge := by
  have hpos : 0 < BatchCap.limit := by decide
  have h0 : 0 < n.toNat := by omega
  have hl : ¬ n.toNat < BatchCap.limit := by omega
  simp [BatchCap.ofInt?, h0, hl]

/-- A cap has the size that it was made of. -/
theorem BatchCap.size_of_ofInt? {n : Int} {cap : BatchCap} (h : BatchCap.ofInt? n = .ok cap) :
    cap.size = n.toNat := by
  unfold BatchCap.ofInt? at h
  split at h
  · split at h
    · cases h
      rfl
    · cases h
  · cases h

namespace Authorization

variable {policy : AuthorizationPolicy} {request : AuthorizationRequest}

/-- A request without documents ends at once. -/
theorem program_of_nil (h : request.docIds = []) :
    program policy request = .done (.ok (.ok .empty)) := by
  simp [program, h]

/-- A request for documents announces itself and opens a session. -/
theorem program_of_ne_nil (hne : request.docIds ≠ []) (hcap : 1 ≤ policy.batchCap)
    (hd : deadlineOverflows request = false) :
    program policy request =
      .log (startedEvent policy request
          (sliceCount policy.batchCap.toNat request.docIds.length : Nat))
        (openSession policy request) := by
  simp [program, hne, batchCount_of_pos hcap, hd]

end Authorization
end DocAccess
