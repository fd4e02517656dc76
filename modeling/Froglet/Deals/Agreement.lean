import Froglet.Provider.ReceiptSoundness
import Froglet.Requester.Projection

/-!
# What the two sides agree on

The requester verifies what it is shown of a deal against the artifacts it signed and
was quoted; the provider shows what it stored.
-/

namespace Froglet

/-- **The requester accepts what the provider stored.** In every run whose actions have the
evidence asked for, a stored deal passes the check of its chain, and its receipt can only
be refused for the result that is shown with it. -/
theorem stored_deals_accepted {P : Primitives} (env : ProviderEnv P) (actions : List ProviderAction)
    (hok : (providerMachine env).Admissible ReceiptOk (providerMachine env).init actions) :
    ∀ row ∈ ((providerMachine env).run actions).store.deals, ∀ remote : DealRecord,
      remote.quote = row.quote → remote.deal = row.artifact →
        verifyProviderDealArtifactChain P remote row.quote row.artifact = .ok ()
        ∧ ∀ r ∈ row.receipt,
          (verifyProviderReceiptArtifact P r row.quote row.artifact env.signer.nodeId
              row.artifact.payload.requesterId remote.result remote.resultHash = .ok ()
            ↔ remote.resultHash = r.payload.resultHash
              ∧ remote.result.map (canonicalResultHash P) = r.payload.resultHash) := by
  obtain ⟨hinv, hreceipts⟩ := (providerMachine env).invariant_of_admissible
    (I := fun s => ProviderInv env s ∧ ReceiptsInv P s) (fun s a h hok => h.2.step h.1 hok)
    actions _ ⟨providerInv_init, List.forall_mem_nil _, List.forall_mem_nil _⟩ hok
  intro row hrow remote hquote hdeal
  have hchecked := (hinv.admitted_of_snapshot (hinv.rows row hrow)).checked
  refine ⟨?_, fun r hr => ?_⟩
  · have hvalid := (valid_validateQuoteDeal P).mpr hchecked.chain
    simp [verifyProviderDealArtifactChain, hquote, hdeal, hvalid, rejectIf]
  · have hvalid := hreceipts.valid row hrow r hr
    obtain ⟨-, -, -, -, hlinked⟩ := (valid_validateQuoteDealReceipt P).mp hvalid
    rw [verifyProviderReceiptArtifact_iff]
    exact ⟨fun h => ⟨h.resultHash, h.result⟩, fun h => ⟨hvalid,
      hlinked.providerId.trans hchecked.provider, hlinked.dealRequesterId, h.1, h.2⟩⟩

theorem stored_deals_accepted_free :
    ∃ row ∈ ((providerMachine (sampleEnv ⟨[], .mock, [], false⟩)).run freeDealRun).store.deals,
      ∃ r ∈ row.receipt, ∀ remote : DealRecord, remote.quote = row.quote →
        remote.deal = row.artifact → remote.resultHash = r.payload.resultHash →
        remote.result.map (canonicalResultHash samplePrimitives) = r.payload.resultHash →
          verifyProviderDealArtifactChain samplePrimitives remote row.quote row.artifact = .ok ()
          ∧ verifyProviderReceiptArtifact samplePrimitives r row.quote row.artifact "p"
            row.artifact.payload.requesterId remote.result remote.resultHash = .ok () := by
  have hsome : ∃ row ∈ ((providerMachine (sampleEnv ⟨[], .mock, [], false⟩)).run
      freeDealRun).store.deals, row.receipt.isSome = true := by decide +kernel
  obtain ⟨row, hrow, hreceipt⟩ := hsome
  obtain ⟨r, hr⟩ := Option.isSome_iff_exists.mp hreceipt
  refine ⟨row, hrow, r, hr, fun remote hquote hdeal hhash hresult => ?_⟩
  obtain ⟨hchain, hverify⟩ := stored_deals_accepted _ freeDealRun
    ⟨trivial, ⟨fun _ _ hpermit => absurd hpermit.symm Bool.false_ne_true, ⟨trivial, ⟨trivial,
      ⟨⟨fun _ => ⟨rfl, by decide⟩, fun hmethod => absurd hmethod.symm (Option.some_ne_none _)⟩,
        trivial⟩⟩⟩⟩⟩ row hrow remote hquote hdeal
  exact ⟨hchain, (hverify r hr).mpr ⟨hhash, hresult⟩⟩

end Froglet
