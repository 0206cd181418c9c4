import CharacterSim.Character.Describe
import CharacterSim.Character.LoginCall
import CharacterSim.Content.Directory
import CharacterSim.Message.Hex
import CharacterSim.Proofs.Attribute.Cycles
import CharacterSim.Proofs.Attribute.Dependents
import CharacterSim.Proofs.Attribute.KindOrder
import CharacterSim.Proofs.Attribute.Range
import CharacterSim.Proofs.Attribute.Withdrawal
import CharacterSim.Proofs.Character.ClientView
import CharacterSim.Proofs.Character.Damage
import CharacterSim.Proofs.Character.Exclusivity
import CharacterSim.Proofs.Character.Floor
import CharacterSim.Proofs.Character.LoginExtent
import CharacterSim.Proofs.Character.LoginOrder
import CharacterSim.Proofs.Character.Parting
import CharacterSim.Proofs.Character.Passages
import CharacterSim.Proofs.Character.Possession
import CharacterSim.Proofs.Character.Resync
import CharacterSim.Proofs.Character.Spending
import CharacterSim.Proofs.Content.Catalogs
import CharacterSim.Proofs.Entity.Changes
import CharacterSim.Proofs.Message.Attempts
import CharacterSim.Proofs.Message.RoundTrip
import CharacterSim.Proofs.Server.Departure
import CharacterSim.Proofs.Server.Isolation
import CharacterSim.Proofs.Server.Persistence
import CharacterSim.Proofs.Server.Recharge
import CharacterSim.Proofs.Server.Refusal
import CharacterSim.Proofs.Server.Relocation
import CharacterSim.Proofs.Sync.Payload
import CharacterSim.Server.Host
