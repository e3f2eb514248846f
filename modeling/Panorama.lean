import Panorama.Spec.Types
import Panorama.Spec.Registry
import Panorama.Spec.Components
import Panorama.Spec.Node
import Panorama.Spec.World
import Panorama.Spec.Lifecycle
import Panorama.Spec.Main
import Panorama.Spec.Client
import Panorama.Proof.Handles
import Panorama.Proof.Recovery
import Panorama.Proof.Tasks
import Panorama.Proof.Refinement
import Panorama.Proof.Progress
import Panorama.Proof.Inference
import Panorama.Proof.Drain
import Panorama.Proof.Exchange
import Panorama.Proof.Faults
import Panorama.Proof.Subscription
import Panorama.Proof.Lifecycle
import Panorama.Proof.Main
import Panorama.Proof.Client
