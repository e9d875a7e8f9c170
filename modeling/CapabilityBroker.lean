import CapabilityBroker.Kernel.Execution
import CapabilityBroker.Manifest.Lookup
import CapabilityBroker.Manifest.Script
import CapabilityBroker.Overview
import CapabilityBroker.Proofs.Acceptance
import CapabilityBroker.Proofs.Accounts
import CapabilityBroker.Proofs.Admission
import CapabilityBroker.Proofs.Agreement.Service
import CapabilityBroker.Proofs.Answers
import CapabilityBroker.Proofs.Arrivals
import CapabilityBroker.Proofs.Authority
import CapabilityBroker.Proofs.Boot.Grammar
import CapabilityBroker.Proofs.Carving.Service
import CapabilityBroker.Proofs.CleanUp
import CapabilityBroker.Proofs.Confinement
import CapabilityBroker.Proofs.Conservation
import CapabilityBroker.Proofs.Endpoints
import CapabilityBroker.Proofs.Gap.Kernel
import CapabilityBroker.Proofs.Gap.Memory
import CapabilityBroker.Proofs.Gap.Service
import CapabilityBroker.Proofs.Gathering
import CapabilityBroker.Proofs.Grants.Service
import CapabilityBroker.Proofs.Handles
import CapabilityBroker.Proofs.Json.Manifest
import CapabilityBroker.Proofs.Json.Surface
import CapabilityBroker.Proofs.Kernel.Device
import CapabilityBroker.Proofs.Kernel.Faults
import CapabilityBroker.Proofs.Kernel.Slots
import CapabilityBroker.Proofs.Latch
import CapabilityBroker.Proofs.Lookup
import CapabilityBroker.Proofs.LowWater
import CapabilityBroker.Proofs.Mapped
import CapabilityBroker.Proofs.Placement
import CapabilityBroker.Proofs.Refused
import CapabilityBroker.Proofs.Replay
import CapabilityBroker.Proofs.Replies
import CapabilityBroker.Proofs.Roster.Service
import CapabilityBroker.Proofs.Rounding
import CapabilityBroker.Proofs.Scheduling
import CapabilityBroker.Proofs.Secrecy
import CapabilityBroker.Proofs.Serving
import CapabilityBroker.Proofs.Sharing
import CapabilityBroker.Proofs.Start.Service
import CapabilityBroker.Proofs.Strangers
import CapabilityBroker.Proofs.Whole
import CapabilityBroker.Service.Boot
import CapabilityBroker.Service.Caller
