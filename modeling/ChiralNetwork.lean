import ChiralNetwork.Map
import ChiralNetwork.Sha256
import ChiralNetwork.Metrics
import ChiralNetwork.Retry
import ChiralNetwork.FileTransfer
import ChiralNetwork.WorkerRetry
import ChiralNetwork.EventStream
import ChiralNetwork.ContentStore
import ChiralNetwork.Backpressure
import ChiralNetwork.Progress
import ChiralNetwork.Delivery
import ChiralNetwork.Float32
import ChiralNetwork.Relay
import ChiralNetwork.Bootstrap
import ChiralNetwork.BootstrapEnv
