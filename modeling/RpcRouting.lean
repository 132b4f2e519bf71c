import RpcRouting.Fault.Crossing
import RpcRouting.Registration
import RpcRouting.Reply
import RpcRouting.Router.Settings
import RpcRouting.Scenario
import RpcRouting.Proofs.Router.Hearing
import RpcRouting.Proofs.Run
import RpcRouting.Proofs.Router.Choosing
import RpcRouting.Proofs.Router.Desk
import RpcRouting.Proofs.Router.History
import RpcRouting.Proofs.Router.Leaving
import RpcRouting.Proofs.Session.Answering
import RpcRouting.Proofs.Session.Closing
import RpcRouting.Proofs.Session.Delivering
import RpcRouting.Proofs.Session.Listening
import RpcRouting.Proofs.Path.Printing
import RpcRouting.Proofs.Path.Spelling
import RpcRouting.Proofs.Session.Releasing
import RpcRouting.Proofs.Session.Ousting
import RpcRouting.Proofs.Session.Failing
import RpcRouting.Proofs.Session.Vanishing
import RpcRouting.Proofs.Session.Finding
import RpcRouting.Proofs.Session.Simulating
import RpcRouting.Proofs.Session.Addressing
import RpcRouting.Proofs.Session.Declaring
import RpcRouting.Proofs.Session.Traceless
import RpcRouting.Proofs.Fault.Alternating
import RpcRouting.Proofs.Path.Joining
import RpcRouting.Proofs.Session.Publishing
import RpcRouting.Proofs.Session.Lockstep
import RpcRouting.Proofs.Fault.Chaining
import RpcRouting.Proofs.Path.Composing
import RpcRouting.Proofs.Router.Heeding
import RpcRouting.Proofs.Session.Apart
import RpcRouting.Proofs.Registration.Once
import RpcRouting.Proofs.Session.Remembering
import RpcRouting.Proofs.Path.Keying
