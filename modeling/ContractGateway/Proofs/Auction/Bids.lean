import ContractGateway.Auction.Scenario
import ContractGateway.Proofs.Abi.Arguments

/-!
# The bids of a scenario

A scenario bids on the lots from zero on. Every such bid can be built on the contract that holds the
lots, and as long as a lot fits into a word, bids on different lots are different calls.
-/

namespace ContractGateway

/-- A declared method that may be sent is prepared with its call data. -/
theorem Contract.prepare_of_encoded
    {contract : Contract}
    {name : String}
    {method : Method}
    {arguments : List AbiValue}
    {data : Bytes}
    (declared : contract.method name = .ok method)
    (writable : method.isWritable = true)
    (encoded : callData method (contract.label name) arguments = .ok data)
    (options : SigningOptions) :
    contract.prepare name arguments options =
      .ok ⟨contract.address, contract.label name, data, options⟩ := by
  rw [prepare, declared]
  change (if (!method.isWritable) = true then _
    else callData method (contract.label name) arguments >>= _) = _
  rw [writable, if_neg (by decide), encoded]
  rfl

namespace Auction

/-- The method that bids on a lot. -/
def placeBidMethod : Method := { writing "placeBid" ["uint256"] [] with mutability := .payable }

/-- The bid on a lot, as it is built on the contract that holds the lots. -/
def bid (index : Nat) : PreparedWrite where
  target := manager.address
  label := manager.label "placeBid"
  calldata := placeBidMethod.selector ++ Word.toBytes (BitVec.ofNat 256 index)
  options := {}

theorem resolveAll_placeBid : Parameter.resolveAll placeBidMethod.inputs = .ok [.uint 256] := rfl

theorem encode_lotIndex (index : Nat) :
    Abi.encode (lotIndex index) = Word.toBytes (BitVec.ofNat 256 index) := by
  simp [lotIndex, Abi.encode, Abi.parts, Abi.assemble, Abi.layOut, Abi.body, AbiValue.isDynamic]

/-- Every bid can be built. -/
theorem placeBid_manager (index : Nat) : placeBid manager index = .ok (bid index) := by
  have encoded :
      Abi.encodeFor placeBidMethod.inputs (lotIndex index) =
        .ok (Word.toBytes (BitVec.ofNat 256 index)) :=
    (Abi.encodeFor_eq_ok_iff _ _ _).mpr
      ⟨[.uint 256], resolveAll_placeBid, rfl, (encode_lotIndex index).symm⟩
  have data :
      Contract.callData placeBidMethod (manager.label "placeBid") (lotIndex index) =
        .ok (placeBidMethod.selector ++ Word.toBytes (BitVec.ofNat 256 index)) := by
    rewrite [Contract.callData, Method.encodeCall, encoded]
    rfl
  have declared : manager.method "placeBid" = .ok placeBidMethod := rfl
  exact Contract.prepare_of_encoded declared rfl data {}

/-- Bids on different lots are different calls. -/
theorem callOf_bid_inj
    {first second : Nat}
    (inside : first < 2 ^ 256)
    (within : second < 2 ^ 256) :
    callOf (bid first) = callOf (bid second) ↔ first = second := by
  refine ⟨fun same => ?_, congrArg (callOf ∘ bid)⟩
  have words := List.append_cancel_left (ReadCall.mk.inj same).2
  have numbers := congrArg BitVec.toNat (congrArg Word.ofBytes words)
  rwa [Word.ofBytes_toBytes, Word.ofBytes_toBytes, BitVec.toNat_ofNat, BitVec.toNat_ofNat,
    Nat.mod_eq_of_lt inside, Nat.mod_eq_of_lt within] at numbers

end Auction

end ContractGateway
